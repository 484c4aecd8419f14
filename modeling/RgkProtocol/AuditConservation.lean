import RgkProtocol.AuditOpenings
import RgkProtocol.CircuitSoundness

/-!
# Conservation in the segmented audit

Along a side the running totals add up the segments, because each commitment opens to one total
and the first segment starts from zero. The final statement opens the last commitment of both
sides to one total.
-/
namespace RgkProtocol.AuditConservation
open ByteStrings Hashing CoreTypes Checked LinkedPath Segments CircuitGadgets
open AssetTypes AssetEncoding AssetValidation CircuitMeaning CircuitSoundness
open AuditStatements AuditCircuits AuditMeaning AuditBundle AuditOpenings

section Totals
variable {H : List UInt8 → Bytes32} {allocs : ℕ} {side : RgkAllocationTranscriptSide}
  {count : UInt64} {Q : Set (List UInt8)}

lemma total_step (hcf : CollisionFree H Q)
    {s : AllocationConservationSegmentStatement allocs}
    {w : AllocationConservationSegmentWitness allocs} (h : ConservationHolds H s w)
    (hside : s.transcript.side = side) (hcount : s.transcript.totalCount = count)
    (hwQ : totalPreimage side count w.previousTotal w.previousTotalBlinding ∈ Q) {t : UInt64}
    {b : Bytes32} (htQ : totalPreimage side count t b ∈ Q)
    (ht : allocationConservationTotalCommitment H side count t b = s.previousTotalCommitment) :
    allocationConservationTotalCommitment H side count w.nextTotal w.nextTotalBlinding =
        s.nextTotalCommitment ∧
      w.nextTotal.toNat = t.toNat + w.transcript.segmentAmount.toNat := by
  have hprevious := h.previous
  have hnext := h.next
  rw [hside, hcount] at hprevious hnext
  have heq : w.previousTotal = t :=
    total_eq_of_commitment_eq hcf hwQ htQ (hprevious.trans ht.symm)
  exact ⟨hnext, by rw [← heq, h.adds]⟩

lemma total_run (hcf : CollisionFree H Q)
    {l : List (AllocationConservationSegmentStatement allocs ×
      Assigned (AllocationConservationSegmentWitness allocs))} {c f : Bytes32}
    (hlinked : Linked (fun p => p.1.previousTotalCommitment) (fun p => p.1.nextTotalCommitment)
      c l f)
    (hall : ∀ p ∈ l, ConservationHolds H p.1 p.2.witness ∧ p.1.transcript.side = side ∧
      p.1.transcript.totalCount = count ∧
      totalPreimage side count p.2.witness.previousTotal p.2.witness.previousTotalBlinding ∈ Q ∧
      totalPreimage side count p.2.witness.nextTotal p.2.witness.nextTotalBlinding ∈ Q)
    {t : UInt64} {b : Bytes32} (htQ : totalPreimage side count t b ∈ Q)
    (ht : allocationConservationTotalCommitment H side count t b = c) :
    ∃ (u : UInt64) (d : Bytes32), totalPreimage side count u d ∈ Q ∧
      allocationConservationTotalCommitment H side count u d = f ∧
      u.toNat = t.toNat +
        (l.map (fun p => p.2.witness.transcript.segmentAmount.toNat)).sum := by
  induction l generalizing c t b with
  | nil => exact ⟨t, b, htQ, ht.trans hlinked, by simp⟩
  | cons p l ih =>
    obtain ⟨⟨hp, hside, hcount, hpQ, hnQ⟩, hrest⟩ := List.forall_mem_cons.mp hall
    obtain ⟨hstart, hlinked⟩ := hlinked
    obtain ⟨hnext, hadd⟩ := total_step hcf hp hside hcount hpQ htQ (ht.trans hstart.symm)
    obtain ⟨u, d, huQ, hu, hsum⟩ := ih hlinked hrest hnQ hnext
    refine ⟨u, d, huQ, hu, ?_⟩
    rw [hsum, hadd, List.map_cons, List.sum_cons, Nat.add_assoc]

end Totals

section Side
variable {H : List UInt8 → Bytes32} {allocs : ℕ} {S : SideAssignment allocs}
  {side : RgkAllocationTranscriptSide} {chainId : KaspaChainId} {count : UInt64}
  {finalRoot : Bytes32} {Q : Set (List UInt8)}

lemma conservation_records (hcf : CollisionFree H Q)
    (hchain : TranscriptChain H side (S.transcripts.map Prod.fst) chainId count finalRoot)
    (hextends : (S.conservation.map Prod.fst).map AllocationConservationSegmentStatement.transcript =
      S.transcripts.map Prod.fst)
    (hsat : S.Satisfies H) (hQ : ∀ x ∈ S.rootPreimages, x ∈ Q) :
    S.conservation.flatMap (fun p => p.2.witness.transcript.allocations) = S.records := by
  have hcarries := SideAssignment.carries_records hcf hchain hextends hsat hQ
  have hmap : S.conservation.map (fun p => p.2.witness.transcript.allocations) =
      S.transcripts.map (fun p => p.2.witness.allocations) := by
    calc S.conservation.map (fun p => p.2.witness.transcript.allocations)
        = ((S.conservation.map Prod.fst).map
            AllocationConservationSegmentStatement.transcript).map
              (fun s => segmentAt allocs S.records s.segmentIndex.toNat) := by
          rw [List.map_map, List.map_map]
          exact List.map_congr_left hcarries.conservation
      _ = S.transcripts.map (fun p => p.2.witness.allocations) := by
          rw [hextends, List.map_map]
          exact List.map_congr_left fun p hp => SideAssignment.segmentAt_records hchain hp
  rw [SideAssignment.records, List.flatMap_def, List.flatMap_def, hmap]

lemma starts_from_zero
    (hchain : TranscriptChain H side (S.transcripts.map Prod.fst) chainId count finalRoot)
    (hextends : (S.conservation.map Prod.fst).map AllocationConservationSegmentStatement.transcript =
      S.transcripts.map Prod.fst)
    {start f : Bytes32}
    (hlinked : Linked (fun p => p.1.previousTotalCommitment) (fun p => p.1.nextTotalCommitment)
      start S.conservation f)
    (hall : ∀ p ∈ S.conservation, ConservationHolds H p.1 p.2.witness ∧
      p.1.transcript.side = side ∧ p.1.transcript.totalCount = count ∧
      totalPreimage side count p.2.witness.previousTotal p.2.witness.previousTotalBlinding ∈ Q ∧
      totalPreimage side count p.2.witness.nextTotal p.2.witness.nextTotalBlinding ∈ Q) :
    ∃ (z : UInt64) (b : Bytes32), totalPreimage side count z b ∈ Q ∧
      allocationConservationTotalCommitment H side count z b = start ∧ z.toNat = 0 := by
  cases hl : S.conservation with
  | nil =>
    rw [hl] at hextends
    exact absurd hextends.symm hchain.nonempty
  | cons p l =>
    rw [hl] at hlinked
    obtain ⟨hp, hside, hcount, hpQ, _⟩ := hall p (by rw [hl]; exact List.mem_cons_self)
    have hindex : p.1.transcript.segmentIndex.toNat = 0 := by
      have hi := hchain.indices
      rw [← hextends, hl] at hi
      simp only [List.map_cons, List.length_cons, List.range_succ_eq_map, List.cons.injEq] at hi
      exact hi.1
    have hzero := hp.starts (UInt64.toNat_inj.mp hindex)
    have hprevious := hp.previous
    rw [hside, hcount] at hprevious
    exact ⟨_, _, hpQ, hprevious.trans hlinked.1, by rw [hzero]; rfl⟩

theorem sum_records (hn : allocs*2^64 < bn254) (hcf : CollisionFree H Q)
    (hchain : TranscriptChain H side (S.transcripts.map Prod.fst) chainId count finalRoot)
    (hextends : (S.conservation.map Prod.fst).map AllocationConservationSegmentStatement.transcript =
      S.transcripts.map Prod.fst)
    {start f : Bytes32}
    (hlinked : Linked AllocationConservationSegmentStatement.previousTotalCommitment
      AllocationConservationSegmentStatement.nextTotalCommitment start
      (S.conservation.map Prod.fst) f)
    (hsat : S.Satisfies H) (hroots : ∀ x ∈ S.rootPreimages, x ∈ Q)
    (htotals : ∀ x ∈ S.totalPreimages, x ∈ Q) {t : UInt64} {b : Bytes32}
    (htQ : totalPreimage side count t b ∈ Q)
    (ht : allocationConservationTotalCommitment H side count t b = f) :
    (S.records.map amountAt).sum = t.toNat := by
  have huniform : ∀ p ∈ S.conservation, p.1.transcript.side = side ∧
      p.1.transcript.totalCount = count := by
    intro p hp
    have hmem : p.1.transcript ∈ S.transcripts.map Prod.fst := by
      rw [← hextends, List.map_map]
      exact List.mem_map_of_mem hp
    obtain ⟨hside, _, hcount⟩ := hchain.uniform _ hmem
    exact ⟨hside, hcount⟩
  have hall : ∀ p ∈ S.conservation, ConservationHolds H p.1 p.2.witness ∧
      p.1.transcript.side = side ∧ p.1.transcript.totalCount = count ∧
      totalPreimage side count p.2.witness.previousTotal p.2.witness.previousTotalBlinding ∈ Q ∧
      totalPreimage side count p.2.witness.nextTotal p.2.witness.nextTotalBlinding ∈ Q := by
    intro p hp
    obtain ⟨hside, hcount⟩ := huniform p hp
    have hx := fun x hx => htotals x (List.mem_flatMap.mpr ⟨p, hp, hx⟩)
    rw [hside, hcount] at hx
    exact ⟨SideAssignment.conservationHolds hsat hp, hside, hcount, hx _ (by simp),
      hx _ (by simp)⟩
  rw [linked_map_edges] at hlinked
  obtain ⟨z, d, hzQ, hz, hz0⟩ := starts_from_zero hchain hextends hlinked hall
  obtain ⟨u, e, huQ, hu, hsum⟩ := total_run hcf hlinked hall hzQ hz
  have hut : u = t := total_eq_of_commitment_eq hcf huQ htQ (hu.trans ht.symm)
  have hamounts : (S.conservation.map (fun p => p.2.witness.transcript.segmentAmount.toNat)).sum =
      (S.conservation.map (fun p =>
        (p.2.witness.transcript.allocations.map amountAt).sum)).sum := by
    refine congrArg List.sum (List.map_congr_left fun p hp => ?_)
    exact ((SideAssignment.conservationHolds hsat hp).transcript.sum_eq hn).symm
  calc (S.records.map amountAt).sum
      = ((S.conservation.flatMap (fun p => p.2.witness.transcript.allocations)).map
          amountAt).sum := by rw [conservation_records hcf hchain hextends hsat hroots]
    _ = (S.conservation.map (fun p =>
          (p.2.witness.transcript.allocations.map amountAt).sum)).sum := sum_map_flatMap _ _ _
    _ = u.toNat := by rw [hsum, hz0, hamounts, Nat.zero_add]
    _ = t.toNat := by rw [hut]

end Side

/-- Of an accepted bundle whose circuits are satisfied, exactly one list of records on either
side opens all statements, and the two sides carry the same amount without overflow. -/
theorem audit_conserves_supply (H : List UInt8 → Bytes32) {spent new : ℕ}
    (hspent : spent*2^64 < bn254) (hnew : new*2^64 < bn254) (A : AuditAssignment spent new)
    (r : AllocationAuditBundleReport) (hacc : verifyAllocationAuditBundle H A.bundle = .ok r)
    (hsat : A.Satisfies H) (Q : Set (List UInt8)) (hcf : CollisionFree H Q)
    (hQ : ∀ x ∈ A.preimages, x ∈ Q) :
    ∃ spentRecords newRecords : List (List UInt8),
      Opening H Q A.bundle r spentRecords newRecords ∧
      (∀ spentRecords' newRecords', Opening H Q A.bundle r spentRecords' newRecords' →
        spentRecords' = spentRecords ∧ newRecords' = newRecords) ∧
      (spentRecords.map amountAt).sum = (newRecords.map amountAt).sum ∧
      (spentRecords.map amountAt).sum < 2^64 := by
  have ha := verifyAllocationAuditBundle_eq_ok.mp hacc
  obtain ⟨hroots, htotals⟩ := List.forall_mem_append.mp hQ
  obtain ⟨hrs, hrn⟩ := List.forall_mem_append.mp hroots
  obtain ⟨hrn, _⟩ := List.forall_mem_append.mp hrn
  simp only [AuditAssignment.totalPreimages, List.forall_mem_append, List.forall_mem_cons]
    at htotals
  obtain ⟨hts, htn, hfs, hfn, _⟩ := htotals
  have hfinal := (finalCircuit_eq_ok.mp hsat.finalConservation).2
  obtain ⟨_, hspentTotals⟩ := ha.spentTotals
  obtain ⟨_, hnewTotals⟩ := ha.newTotals
  have hspentCount : A.finalConservation.1.spentTotalCount = r.spentTotalCount := ha.spentCount
  have hnewCount : A.finalConservation.1.newTotalCount = r.newTotalCount := ha.newCount
  have hs := sum_records hspent hcf ha.spentChain ha.spentExtends hspentTotals hsat.spent hrs hts
    (hspentCount ▸ hfs) (hspentCount ▸ hfinal.spent)
  have hn := sum_records hnew hcf ha.newChain ha.newExtends hnewTotals hsat.new hrn htn
    (hnewCount ▸ hfn) (hnewCount ▸ hfinal.new)
  refine ⟨A.spent.records, A.new.records, AuditAssignment.opening hcf ha hsat hQ, ?_, ?_, ?_⟩
  · intro spentRecords' newRecords' h
    exact AuditAssignment.opening_unique hcf ha hsat hroots h
  · rw [hs, hn]
  · rw [hs]
    exact UInt64.toNat_lt _

section Samples
variable (H : List UInt8 → Bytes32) {k : ℕ}

def sampleBlinding : Bytes32 := Bytes.fill 32 7

/-- The one or two allocations of a segment, with their amount. -/
structure Batch (k : ℕ) where
  allocations : List RgkAllocation
  amount : UInt64
  arity : k = 1 ∨ k = 2
  length_eq : allocations.length = k
  sum : supplyOf allocations = amount.toNat

lemma supplyOf_singleton (a : RgkAllocation) : supplyOf [a] = a.amount.toNat := by simp

def Batch.single (a : RgkAllocation) : Batch 1 :=
  ⟨[a], a.amount, .inl rfl, rfl, supplyOf_singleton a⟩

def Batch.pair (a b : RgkAllocation) (amount : UInt64) (h : supplyOf [a, b] = amount.toNat) :
    Batch 2 :=
  ⟨[a, b], amount, .inr rfl, rfl, h⟩

def Batch.records (x : Batch k) : List (List UInt8) := x.allocations.map encodeAllocation

lemma Batch.length_records (x : Batch k) : x.records.length = k :=
  (List.length_map _).trans x.length_eq

lemma Batch.arity_bounds (x : Batch k) :
    k ≠ 0 ∧ UInt64.ofNat k ≠ 0 ∧ UInt64.ofNat (2*k) ≠ 0 ∧ k*2^64 < bn254 := by
  rcases x.arity with rfl | rfl <;> decide

def sampleSegment (side : RgkAllocationTranscriptSide) (previousRoot : Bytes32)
    (segmentIndex totalCount : UInt64) (x : Batch k) : AllocationTranscriptSegmentStatement k :=
  ⟨previousRoot, allocationTranscriptSegmentRootFromWitness H previousRoot side segmentIndex
    totalCount x.records, .kaspaSimnet, side, segmentIndex, totalCount,
    allocationTranscriptAmountCommitment H side segmentIndex totalCount x.amount sampleBlinding⟩

def sampleRecords (x : Batch k) : AllocationTranscriptSegmentWitness k :=
  ⟨x.records, x.amount, sampleBlinding, x.length_records⟩

def sampleTotals (s : AllocationTranscriptSegmentStatement k) (before after : UInt64) :
    AllocationConservationSegmentStatement k :=
  ⟨s, allocationConservationTotalCommitment H s.side s.totalCount before sampleBlinding,
    allocationConservationTotalCommitment H s.side s.totalCount after sampleBlinding⟩

/-- A side, from its segments with the allocations of each and the total before it. -/
def sampleSide (segments : List (AllocationTranscriptSegmentStatement k × Batch k × UInt64)) :
    SideAssignment k where
  transcripts := segments.map (fun x => (x.1, ⟨x.1.publicInputs, sampleRecords x.2.1⟩))
  conservation := segments.map (fun x =>
    let t := sampleTotals H x.1 x.2.2 (x.2.2 + x.2.1.amount)
    (t, ⟨t.publicInputs, sampleRecords x.2.1, x.2.2, x.2.2 + x.2.1.amount, sampleBlinding,
      sampleBlinding⟩))

def firstSpent (a : Batch k) : AllocationTranscriptSegmentStatement k :=
  sampleSegment H .spent (allocationTranscriptEmptyRoot H .spent) 0 (UInt64.ofNat (2*k)) a

def secondSpent (a b : Batch k) : AllocationTranscriptSegmentStatement k :=
  sampleSegment H .spent (firstSpent H a).nextRoot 1 (UInt64.ofNat (2*k)) b

def onlyNew (c : Batch k) : AllocationTranscriptSegmentStatement k :=
  sampleSegment H .new (allocationTranscriptEmptyRoot H .new) 0 (UInt64.ofNat k) c

/-- Two segments spend `a` and `b`, one segment creates `c`. -/
def sampleAudit (a b c : Batch k) : AuditAssignment k k where
  spent := sampleSide H [(firstSpent H a, a, 0), (secondSpent H a b, b, a.amount)]
  new := sampleSide H [(onlyNew H c, c, 0)]
  finalConservation :=
    let s : AllocationConservationFinalStatement :=
      ⟨UInt64.ofNat (2*k), UInt64.ofNat k,
        allocationConservationTotalCommitment H .spent (UInt64.ofNat (2*k)) c.amount sampleBlinding,
        allocationConservationTotalCommitment H .new (UInt64.ofNat k) c.amount sampleBlinding⟩
    (s, ⟨s.publicInputs, c.amount, sampleBlinding, sampleBlinding⟩)
  exclusions :=
    [(firstSpent H a, a), (secondSpent H a b, b)].map (fun x =>
      let e := pairStatement x.1 (onlyNew H c)
      (e, ⟨e.publicInputs, sampleRecords x.2, sampleRecords c⟩))

def sampleReport (a b c : Batch k) : AllocationAuditBundleReport :=
  ⟨.kaspaSimnet, 2, 1, 2, UInt64.ofNat (2*k), UInt64.ofNat k, (secondSpent H a b).nextRoot,
    (onlyNew H c).nextRoot,
    allocationConservationTotalCommitment H .spent (UInt64.ofNat (2*k)) c.amount sampleBlinding,
    allocationConservationTotalCommitment H .new (UInt64.ofNat k) c.amount sampleBlinding⟩

lemma sampleAudit_accepted {a b c : Batch k} (h : a.amount + b.amount = c.amount) :
    verifyAllocationAuditBundle H (sampleAudit H a b c).bundle = .ok (sampleReport H a b c) := by
  have hsize : (UInt64.ofNat (2*k)).toNat = 2*k ∧ (UInt64.ofNat k).toNat = 1*k := by
    rcases a.arity with rfl | rfl <;> decide
  have hspent : ∀ s ∈ [firstSpent H a, secondSpent H a b], s.side = .spent ∧
      s.chainId = .kaspaSimnet ∧ s.totalCount = UInt64.ofNat (2*k) := by
    simp [firstSpent, secondSpent, sampleSegment]
  have hnew : ∀ s ∈ [onlyNew H c], s.side = .new ∧ s.chainId = .kaspaSimnet ∧
      s.totalCount = UInt64.ofNat k := by
    simp [onlyNew, sampleSegment]
  refine verifyAllocationAuditBundle_eq_ok.mpr ⟨a.arity_bounds.1, a.arity_bounds.1,
    ⟨List.cons_ne_nil _ _, hsize.1, hspent, rfl, rfl, rfl, rfl⟩,
    ⟨List.cons_ne_nil _ _, hsize.2, hnew, rfl, rfl, rfl⟩, rfl, rfl, rfl, rfl, ⟨_, rfl, ?_, ?_⟩,
    ⟨_, rfl, ?_⟩, ⟨?_, rfl, ?_, ?_, ?_⟩, rfl, rfl, rfl, rfl, rfl⟩
  · simp [sampleTotals, secondSpent, firstSpent, sampleSegment]
  · show allocationConservationTotalCommitment H .spent _ (a.amount + b.amount) _ = _
    rw [h]
    rfl
  · show allocationConservationTotalCommitment H .new _ (0 + c.amount) _ = _
    rw [UInt64.zero_add]
    rfl
  · show 2*1 < 2^64
    decide
  · show [((0 : UInt64), (0 : UInt64)), (1, 0)].Nodup
    decide
  · exact List.forall_mem_cons.mpr ⟨⟨List.mem_cons_self, List.mem_cons_self⟩,
      List.forall_mem_singleton.mpr ⟨List.mem_cons_of_mem _ List.mem_cons_self, List.mem_cons_self⟩⟩
  · exact List.forall_mem_cons.mpr ⟨List.forall_mem_singleton.mpr List.mem_cons_self,
      List.forall_mem_singleton.mpr (List.forall_mem_singleton.mpr
        (List.mem_cons_of_mem _ List.mem_cons_self))⟩

variable {H}

lemma sampleBlinding_ne : sampleBlinding ≠ Bytes.zero := by decide

structure Batch.Ok (x : Batch k) : Prop where
  allocations_ok : ∀ a ∈ x.allocations, AllocationOk .kaspaSimnet a
  distinct : (x.allocations.map anchorTag).Nodup
  amount_ne : x.amount ≠ 0

lemma Batch.single_ok {a : RgkAllocation} (ha : AllocationOk .kaspaSimnet a) :
    (Batch.single a).Ok :=
  ⟨List.forall_mem_singleton.mpr ha, List.nodup_singleton _, ha.amount⟩

lemma Batch.pair_ok {a b : RgkAllocation} {amount : UInt64} {h : supplyOf [a, b] = amount.toNat}
    (ha : AllocationOk .kaspaSimnet a) (hb : AllocationOk .kaspaSimnet b)
    (hab : anchorTag a ≠ anchorTag b) (hamount : amount ≠ 0) : (Batch.pair a b amount h).Ok :=
  ⟨List.forall_mem_cons.mpr ⟨ha, List.forall_mem_singleton.mpr hb⟩, by simpa [pair] using hab,
    hamount⟩

lemma sampleSegment_holds {side : RgkAllocationTranscriptSide} {root : Bytes32} {i m : UInt64}
    {x : Batch k} (hx : x.Ok) :
    SegmentHolds H (sampleSegment H side root i m x) (sampleRecords x) where
  allocs_ne := x.arity_bounds.1
  amount_ne := hx.amount_ne
  blinding_ne := sampleBlinding_ne
  width := by simp [sampleRecords, Batch.records]
  common := List.forall_mem_map.mpr fun a ha =>
    enforceAllocationCommon_iff.mpr (hx.allocations_ok a ha)
  distinct := enforceDistinctOutpoints_iff.mpr hx.distinct
  sum := (sumAllocationAmounts_encode (by rw [x.length_eq]; exact x.arity_bounds.2.2.2)).mpr x.sum
  amountCommitment := rfl
  root := rfl

/-- A segment with the total before it satisfies both of its circuits. -/
structure SampleOk (x : AllocationTranscriptSegmentStatement k × Batch k × UInt64) : Prop where
  layout : SegmentLayout x.1
  holds : SegmentHolds H x.1 (sampleRecords x.2.1)
  before_ne : allocationConservationTotalCommitment H x.1.side x.1.totalCount x.2.2
    sampleBlinding ≠ Bytes.zero
  after_ne : allocationConservationTotalCommitment H x.1.side x.1.totalCount
    (x.2.2 + x.2.1.amount) sampleBlinding ≠ Bytes.zero
  fits : x.2.2.toNat + x.2.1.amount.toNat < 2^64
  starts : x.1.segmentIndex = 0 → x.2.2 = 0

lemma sampleSide_satisfies
    {segments : List (AllocationTranscriptSegmentStatement k × Batch k × UInt64)}
    (h : ∀ x ∈ segments, SampleOk (H := H) x) : (sampleSide H segments).Satisfies H := by
  constructor
  · intro p hp
    obtain ⟨x, hx, rfl⟩ := List.mem_map.mp hp
    exact transcriptCircuit_eq_ok.mpr ⟨rfl, (h x hx).layout, (h x hx).holds⟩
  · intro p hp
    obtain ⟨x, hx, rfl⟩ := List.mem_map.mp hp
    have hok := h x hx
    have hadd : x.2.2.toNat + x.2.1.amount.toNat = (x.2.2 + x.2.1.amount).toNat := by
      rw [UInt64.toNat_add, Nat.mod_eq_of_lt hok.fits]
    exact conservationCircuit_eq_ok.mpr ⟨rfl, hok.layout, hok.before_ne, hok.after_ne, hok.holds,
      sampleBlinding_ne, sampleBlinding_ne, hadd, hok.starts, rfl, rfl⟩

variable (H)

/-- The strings hashed for the roots and totals of a sample audit, each once. -/
def sampleInputs (a b c : Batch k) : List (List UInt8) :=
  [rootPreimage (firstSpent H a) a.records, rootPreimage (secondSpent H a b) b.records,
    rootPreimage (onlyNew H c) c.records, totalPreimage .spent (UInt64.ofNat (2*k)) 0 sampleBlinding,
    totalPreimage .spent (UInt64.ofNat (2*k)) a.amount sampleBlinding,
    totalPreimage .spent (UInt64.ofNat (2*k)) c.amount sampleBlinding,
    totalPreimage .new (UInt64.ofNat k) 0 sampleBlinding,
    totalPreimage .new (UInt64.ofNat k) c.amount sampleBlinding]

/-- All public digests of a sample audit, after the zero digest. -/
def sampleDigests (a b c : Batch k) : List Bytes32 :=
  [Bytes.zero, allocationTranscriptEmptyRoot H .spent, allocationTranscriptEmptyRoot H .new,
    (firstSpent H a).segmentAmountCommitment, (secondSpent H a b).segmentAmountCommitment,
    (onlyNew H c).segmentAmountCommitment] ++ (sampleInputs H a b c).map H

variable {H} {a b c : Batch k}

lemma sampleDigests_ne (hd : (sampleDigests H a b c).Nodup) {x y : Bytes32} (i j : ℕ)
    (hij : i < j ∧ j < 14) (hx : (sampleDigests H a b c)[i]? = some x)
    (hy : (sampleDigests H a b c)[j]? = some y) : x ≠ y := by
  intro hxy
  refine List.nodup_iff_getElem?_ne_getElem?.mp hd i j hij.1 hij.2 ?_
  rw [hx, hy, hxy]

lemma sampleDigests_ne_zero (hd : (sampleDigests H a b c).Nodup) {y : Bytes32} (j : ℕ)
    (hj : 0 < j ∧ j < 14) (hy : (sampleDigests H a b c)[j]? = some y) : y ≠ Bytes.zero :=
  (sampleDigests_ne hd 0 j hj rfl hy).symm

lemma sample_layouts (hd : (sampleDigests H a b c).Nodup) :
    SegmentLayout (firstSpent H a) ∧ SegmentLayout (secondSpent H a b) ∧
      SegmentLayout (onlyNew H c) := by
  have hz := @sampleDigests_ne_zero H _ a b c hd
  refine ⟨⟨hz 1 (by omega) rfl, hz 6 (by omega) rfl, sampleDigests_ne hd 1 6 (by omega) rfl rfl,
    a.arity_bounds.2.2.1, hz 3 (by omega) rfl⟩, ?_, ?_⟩
  · exact ⟨hz 6 (by omega) rfl, hz 7 (by omega) rfl, sampleDigests_ne hd 6 7 (by omega) rfl rfl,
      a.arity_bounds.2.2.1, hz 4 (by omega) rfl⟩
  · exact ⟨hz 2 (by omega) rfl, hz 8 (by omega) rfl, sampleDigests_ne hd 2 8 (by omega) rfl rfl,
      c.arity_bounds.2.1, hz 5 (by omega) rfl⟩

lemma sampleSpent_ok (ha : a.Ok) (hb : b.Ok)
    (hsum : a.amount.toNat + b.amount.toNat = c.amount.toNat)
    (hd : (sampleDigests H a b c).Nodup) :
    ∀ x ∈ [(firstSpent H a, a, 0), (secondSpent H a b, b, a.amount)], SampleOk (H := H) x := by
  obtain ⟨hs, ht, -⟩ := sample_layouts hd
  have hz := @sampleDigests_ne_zero H _ a b c hd
  have hadd : a.amount + b.amount = c.amount := by
    rw [← UInt64.toNat_inj, UInt64.toNat_add, hsum, Nat.mod_eq_of_lt c.amount.toNat_lt]
  have hlt := c.amount.toNat_lt
  refine List.forall_mem_cons.mpr ⟨⟨hs, sampleSegment_holds ha, hz 9 (by omega) rfl, ?_, ?_, ?_⟩,
    List.forall_mem_singleton.mpr ⟨ht, sampleSegment_holds hb, hz 10 (by omega) rfl, ?_, ?_, ?_⟩⟩
  · show allocationConservationTotalCommitment H .spent _ (0 + a.amount) sampleBlinding ≠ _
    rw [UInt64.zero_add]
    exact hz 10 (by omega) rfl
  · show 0 + a.amount.toNat < 2^64
    omega
  · exact fun _ => rfl
  · show allocationConservationTotalCommitment H .spent _ (a.amount + b.amount) sampleBlinding ≠ _
    rw [hadd]
    exact hz 11 (by omega) rfl
  · show a.amount.toNat + b.amount.toNat < 2^64
    omega
  · intro h
    exact absurd h (show (1 : UInt64) ≠ 0 by decide)

lemma sampleNew_ok (hc : c.Ok) (hd : (sampleDigests H a b c).Nodup) :
    ∀ x ∈ [(onlyNew H c, c, 0)], SampleOk (H := H) x := by
  have hz := @sampleDigests_ne_zero H _ a b c hd
  have hlt := c.amount.toNat_lt
  refine List.forall_mem_singleton.mpr ⟨(sample_layouts hd).2.2, sampleSegment_holds hc,
    hz 12 (by omega) rfl, ?_, ?_, fun _ => rfl⟩
  · show allocationConservationTotalCommitment H .new _ (0 + c.amount) sampleBlinding ≠ _
    rw [UInt64.zero_add]
    exact hz 13 (by omega) rfl
  · show 0 + c.amount.toNat < 2^64
    omega

lemma sampleAudit_satisfies (ha : a.Ok) (hb : b.Ok) (hc : c.Ok)
    (hac : ∀ x ∈ a.allocations, ∀ y ∈ c.allocations, anchorTag x ≠ anchorTag y)
    (hbc : ∀ x ∈ b.allocations, ∀ y ∈ c.allocations, anchorTag x ≠ anchorTag y)
    (hsum : a.amount.toNat + b.amount.toNat = c.amount.toNat)
    (hd : (sampleDigests H a b c).Nodup) : (sampleAudit H a b c).Satisfies H := by
  obtain ⟨hs, ht, hn⟩ := sample_layouts hd
  have hz := @sampleDigests_ne_zero H _ a b c hd
  refine ⟨sampleSide_satisfies (sampleSpent_ok ha hb hsum hd),
    sampleSide_satisfies (sampleNew_ok hc hd), finalCircuit_eq_ok.mpr ⟨rfl, ?_⟩, ?_⟩
  · exact ⟨a.arity_bounds.2.2.1, c.arity_bounds.2.1, hz 11 (by omega) rfl, hz 13 (by omega) rfl,
      hc.amount_ne, sampleBlinding_ne, sampleBlinding_ne, rfl, rfl⟩
  · refine List.forall_mem_cons.mpr ⟨?_, List.forall_mem_singleton.mpr ?_⟩
    · exact exclusionCircuit_eq_ok.mpr ⟨rfl, hs, hn, sampleSegment_holds ha, sampleSegment_holds hc,
        enforceSpentAnchorsNotReused_iff.mpr hac⟩
    · exact exclusionCircuit_eq_ok.mpr ⟨rfl, ht, hn, sampleSegment_holds hb, sampleSegment_holds hc,
        enforceSpentAnchorsNotReused_iff.mpr hbc⟩

lemma sampleAudit_preimages (hadd : a.amount + b.amount = c.amount) :
    ∀ x ∈ (sampleAudit H a b c).preimages, x ∈ sampleInputs H a b c := by
  have hroots : (sampleAudit H a b c).rootPreimages =
      let r := rootPreimage (firstSpent H a) a.records
      let s := rootPreimage (secondSpent H a b) b.records
      let t := rootPreimage (onlyNew H c) c.records
      [r, s, r, s, t, t, r, t, s, t] := rfl
  have htotals : (sampleAudit H a b c).totalPreimages =
      let p := fun x => totalPreimage .spent (UInt64.ofNat (2*k)) x sampleBlinding
      let q := fun x => totalPreimage .new (UInt64.ofNat k) x sampleBlinding
      [p 0, p (0 + a.amount), p a.amount, p (a.amount + b.amount), q 0, q (0 + c.amount),
        p c.amount, q c.amount] := rfl
  rw [AuditAssignment.preimages, hroots, htotals, UInt64.zero_add, UInt64.zero_add, hadd]
  simp [sampleInputs]

lemma sampleAudit_collisionFree (hd : (sampleDigests H a b c).Nodup) :
    CollisionFree H {x | x ∈ sampleInputs H a b c} :=
  CollisionFree.of_nodup (List.Nodup.of_append_right hd)

/-- Segments of four and six units are spent, one of ten units is created. -/
def sampleSha : AuditAssignment 1 1 :=
  sampleAudit Sha256.digest (.single (sampleAllocation 1 1 4)) (.single (sampleAllocation 1 2 6))
    (.single (sampleAllocation 1 3 10))

lemma sampleDigests_nodup : (sampleDigests Sha256.digest (.single (sampleAllocation 1 1 4))
    (.single (sampleAllocation 1 2 6)) (.single (sampleAllocation 1 3 10))).Nodup := by
  decide +kernel

lemma sampleSha_satisfies : sampleSha.Satisfies Sha256.digest := by
  refine sampleAudit_satisfies ?_ ?_ ?_ (by decide) (by decide) rfl sampleDigests_nodup
  all_goals exact Batch.single_ok (sampleAllocation_ok (by decide) (by decide) (by decide))

theorem audit_conserves_supply_sample :
    let r := sampleReport Sha256.digest (.single (sampleAllocation 1 1 4))
      (.single (sampleAllocation 1 2 6)) (.single (sampleAllocation 1 3 10))
    let Q : Set (List UInt8) := {x | x ∈ sampleInputs Sha256.digest
      (.single (sampleAllocation 1 1 4)) (.single (sampleAllocation 1 2 6))
      (.single (sampleAllocation 1 3 10))}
    ∃ spentRecords newRecords : List (List UInt8),
      Opening Sha256.digest Q sampleSha.bundle r spentRecords newRecords ∧
      (∀ spentRecords' newRecords',
        Opening Sha256.digest Q sampleSha.bundle r spentRecords' newRecords' →
          spentRecords' = spentRecords ∧ newRecords' = newRecords) ∧
      (spentRecords.map amountAt).sum = (newRecords.map amountAt).sum ∧
      (spentRecords.map amountAt).sum < 2^64 := by
  exact audit_conserves_supply Sha256.digest (by decide) (by decide) _ _
    (sampleAudit_accepted _ rfl) sampleSha_satisfies _
    (sampleAudit_collisionFree sampleDigests_nodup) (sampleAudit_preimages rfl)

end Samples
end RgkProtocol.AuditConservation
