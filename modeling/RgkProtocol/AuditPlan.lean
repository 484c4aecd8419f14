import RgkProtocol.AuditConstruction
import RgkProtocol.AuditManifest
import RgkProtocol.ContinuationPlan
import RgkProtocol.Segments
import RgkProtocol.CircuitCompleteness

/-!
# Planned audits and audits that can be carried out

For a transfer outside the fixed shapes the planner announces an audit in segments of two
allocations, with the last segment of a side possibly short. The verifier knows full segments
only. So a plan can be carried out exactly when the capacity divides both allocation counts.
-/
namespace RgkProtocol.AuditPlan
open ByteStrings Hashing CoreTypes Checked LinkedPath AssetTypes AssetEncoding AssetValidation
open ContinuationPlan Segments AuditStatements AuditMeaning AuditBundle AuditManifest
open AuditConstruction
open CircuitSoundness (sampleAllocation)
open CircuitCompleteness (samplePlan sampleShape sampleTxid sampleFinal sampleStatement
  sampleReport)

section Planner

inductive RgkProductionAllocationStrategy where
  | fixedAllocationVector (shape : RgkAllocationProofShape)
  | segmentedAllocationAudit (segmentCapacity spentSegments newSegments exclusionPairs
      groth16ProofEntries : ℕ)
  deriving DecidableEq

def segmentedAllocationAuditSegmentCapacity : ℕ := 2

/-- Addition of 64-bit sizes that reports overflow. -/
def checkedAddSize (a b : ℕ) : Option ℕ := if a+b < 2^64 then some (a+b) else none

def divCeil (a b : ℕ) : ℕ := (a+b-1)/b

def segmentedAuditForReport (report : RgkContinuationReport) (segmentCapacity : ℕ) :
    Except RgkAssetError RgkProductionAllocationStrategy := do
  failIf (segmentCapacity = 0) (.segmentedAllocationAuditInvalidSegmentCapacity segmentCapacity)
  failIf (report.burnedSupply ≠ 0)
    (.segmentedAllocationAuditRequiresConservation report.burnedSupply)
  failIf (report.spentAllocationCount = 0) (.segmentedAllocationAuditEmptySide "spent")
  failIf (report.newAllocationCount = 0) (.segmentedAllocationAuditEmptySide "new")
  let spentSegments := divCeil report.spentAllocationCount segmentCapacity
  let newSegments := divCeil report.newAllocationCount segmentCapacity
  let exclusionPairs ← okOr (checkedMul spentSegments newSegments)
    .segmentedAllocationAuditGridTooLarge
  let transcriptAndConservationEntries ← okOr
    ((checkedAddSize spentSegments newSegments).bind (fun segments => checkedMul segments 2))
    .segmentedAllocationAuditGridTooLarge
  let groth16ProofEntries ← okOr
    ((checkedAddSize transcriptAndConservationEntries 1).bind
      (fun entries => checkedAddSize entries exclusionPairs))
    .segmentedAllocationAuditGridTooLarge
  .ok (.segmentedAllocationAudit segmentCapacity spentSegments newSegments exclusionPairs
    groth16ProofEntries)

def forContinuationReport (report : RgkContinuationReport) :
    Except RgkAssetError RgkProductionAllocationStrategy :=
  match RgkAllocationProofShape.fromCounts report.spentAllocationCount report.newAllocationCount with
  | some shape => .ok (.fixedAllocationVector shape)
  | none => segmentedAuditForReport report segmentedAllocationAuditSegmentCapacity

/-- What a plan for an audit in segments of capacity `c` says. -/
structure PlannedAudit (report : RgkContinuationReport)
    (c spentSegments newSegments pairs entries : ℕ) : Prop where
  capacity : c ≠ 0
  conserves : report.burnedSupply = 0
  spent_ne : report.spentAllocationCount ≠ 0
  new_ne : report.newAllocationCount ≠ 0
  spent_segments : spentSegments = divCeil report.spentAllocationCount c
  new_segments : newSegments = divCeil report.newAllocationCount c
  size : pairs = spentSegments*newSegments
  fits : spentSegments*newSegments < 2^64
  proofs : entries = (spentSegments+newSegments)*2 + 1 + pairs

lemma checkedAddSize_eq_some {a b c : ℕ} (h : checkedAddSize a b = some c) :
    c = a+b ∧ c < 2^64 := by
  unfold checkedAddSize at h
  split_ifs at h with hlt
  obtain rfl := Option.some.inj h
  exact ⟨rfl, hlt⟩

lemma segmentedAuditForReport_inv {report : RgkContinuationReport}
    {capacity c spentSegments newSegments pairs entries : ℕ}
    (h : segmentedAuditForReport report capacity =
      .ok (.segmentedAllocationAudit c spentSegments newSegments pairs entries)) :
    PlannedAudit report c spentSegments newSegments pairs entries ∧ c = capacity ∧
      entries < 2^64 := by
  obtain ⟨hc, h⟩ := unit_bind_eq_ok.mp h
  obtain ⟨hb, h⟩ := unit_bind_eq_ok.mp h
  obtain ⟨hs, h⟩ := unit_bind_eq_ok.mp h
  obtain ⟨hn, h⟩ := unit_bind_eq_ok.mp h
  obtain ⟨p, hp, h⟩ := bind_eq_ok.mp h
  obtain ⟨t, ht, h⟩ := bind_eq_ok.mp h
  obtain ⟨e, he, h⟩ := bind_eq_ok.mp h
  obtain ⟨hp, hfits⟩ := checkedMul_eq_some.mp (okOr_eq_ok.mp hp)
  obtain ⟨segments, hsum, ht⟩ := Option.bind_eq_some_iff.mp (okOr_eq_ok.mp ht)
  obtain ⟨more, hmore, he⟩ := Option.bind_eq_some_iff.mp (okOr_eq_ok.mp he)
  have ht := (checkedMul_eq_some.mp ht).1
  obtain ⟨hsum, -⟩ := checkedAddSize_eq_some hsum
  obtain ⟨hmore, -⟩ := checkedAddSize_eq_some hmore
  obtain ⟨he, hlt⟩ := checkedAddSize_eq_some he
  obtain ⟨rfl, rfl, rfl, rfl, rfl⟩ :=
    RgkProductionAllocationStrategy.segmentedAllocationAudit.inj (Except.ok.inj h)
  refine ⟨⟨failIf_eq_ok.mp hc, not_not.mp (failIf_eq_ok.mp hb), failIf_eq_ok.mp hs,
    failIf_eq_ok.mp hn, rfl, rfl, hp, hfits, ?_⟩, rfl, hlt⟩
  rw [he, hmore, ht, hsum]

lemma forContinuationReport_segmented {report : RgkContinuationReport}
    {c spentSegments newSegments pairs entries : ℕ}
    (h : forContinuationReport report =
      .ok (.segmentedAllocationAudit c spentSegments newSegments pairs entries)) :
    segmentedAuditForReport report segmentedAllocationAuditSegmentCapacity =
      .ok (.segmentedAllocationAudit c spentSegments newSegments pairs entries) := by
  unfold forContinuationReport at h
  split at h
  · cases h
  · exact h

theorem forContinuationReport_inv {report : RgkContinuationReport}
    {c spentSegments newSegments pairs entries : ℕ}
    (h : forContinuationReport report =
      .ok (.segmentedAllocationAudit c spentSegments newSegments pairs entries)) :
    PlannedAudit report c spentSegments newSegments pairs entries :=
  (segmentedAuditForReport_inv (forContinuationReport_segmented h)).1

/-- Rounding up loses nothing when the capacity divides the count. -/
lemma divCeil_mul {a c : ℕ} (hc : c ≠ 0) (h : c ∣ a) : divCeil a c*c = a := by
  obtain ⟨k, rfl⟩ := h
  have hsplit : c*k + c - 1 = (c-1) + c*k := by omega
  rw [divCeil, hsplit, Nat.add_mul_div_left _ _ (Nat.pos_of_ne_zero hc),
    Nat.div_eq_of_lt (by omega), Nat.zero_add, Nat.mul_comm]

end Planner

section Prover
variable (H : List UInt8 → Bytes32)

/-- The blindings of a prover, one for every amount and every running total. -/
structure AuditBlindings where
  amount : RgkAllocationTranscriptSide → ℕ → Bytes32
  total : RgkAllocationTranscriptSide → ℕ → Bytes32
  amount_ne : ∀ side i, amount side i ≠ Bytes.zero
  total_ne : ∀ side i, total side i ≠ Bytes.zero

/-- The sorted allocations of a side, cut into the planned number of segments. -/
def cutSegments (c segments : ℕ) (allocations : List RgkAllocation) : List (List RgkAllocation) :=
  (List.range segments).map (segmentAt c (sortByKey allocationKey allocations))

/-- The statements of a side from a segment on, with the root and the running total before it. -/
def honestSide (c : ℕ) (B : AuditBlindings) (side : RgkAllocationTranscriptSide)
    (totalCount : UInt64) : ℕ → Bytes32 → UInt64 → List (List RgkAllocation) →
      Except String (List (AllocationConservationSegmentStatement c) × UInt64)
  | _, _, runningTotal, [] => .ok ([], runningTotal)
  | index, previousRoot, runningTotal, segment :: rest => do
      let statement ← AllocationConservationSegmentStatement.fromAllocations H c previousRoot side
        (UInt64.ofNat index) totalCount runningTotal segment (B.amount side index)
        (B.total side index) (B.total side (index+1))
      let amount ← allocationAmountSum segment
      let nextTotal ← okOr (checkedAdd runningTotal amount) "running total"
      let (statements, final) ← honestSide c B side totalCount (index+1)
        statement.transcript.nextRoot nextTotal rest
      .ok (statement :: statements, final)

/-- The audit of a transition in the planned segments. -/
def honestBundle (c spentSegments newSegments : ℕ) (t : RgkTransition) (B : AuditBlindings) :
    Except String (AllocationAuditBundle c c) := do
  let spentCount := UInt64.ofNat t.spentAllocations.length
  let newCount := UInt64.ofNat t.newAllocations.length
  let spentCut := cutSegments c spentSegments t.spentAllocations
  let newCut := cutSegments c newSegments t.newAllocations
  let (spent, total) ← honestSide H c B .spent spentCount 0
    (allocationTranscriptEmptyRoot H .spent) 0 spentCut
  let (new, _) ← honestSide H c B .new newCount 0 (allocationTranscriptEmptyRoot H .new) 0 newCut
  let finalConservation ← AllocationConservationFinalStatement.fromTotal H spentCount newCount total
    (B.total .spent spentSegments) (B.total .new newSegments)
  let exclusions ← mapEach (fun p => AllocationExclusionSegmentPairStatement.fromAllocations H c c
      p.1.1.transcript.previousRoot p.2.1.transcript.previousRoot p.1.1.transcript.segmentIndex
      p.2.1.transcript.segmentIndex spentCount newCount p.1.2 p.2.2
      (B.amount .spent p.1.1.transcript.segmentIndex.toNat)
      (B.amount .new p.2.1.transcript.segmentIndex.toNat))
    ((spent.zip spentCut) ×ˢ (new.zip newCut))
  .ok { spentTranscripts := spent.map AllocationConservationSegmentStatement.transcript
        newTranscripts := new.map AllocationConservationSegmentStatement.transcript
        spentConservation := spent, newConservation := new, finalConservation, exclusions }

/-- Whatever the blindings, the planned audit of the transition is built and accepted, with the
planned counts and number of proofs. -/
def AuditCarriedOut (report : RgkContinuationReport) (c spentSegments newSegments entries : ℕ)
    (t : RgkTransition) : Prop :=
  ∀ B : AuditBlindings, ∃ bundle audit,
    honestBundle H c spentSegments newSegments t B = .ok bundle ∧
    verifyAllocationAuditBundle H bundle = .ok audit ∧
    audit.spentTotalCount.toNat = report.spentAllocationCount ∧
    audit.newTotalCount.toNat = report.newAllocationCount ∧
    (allocationAuditManifestEntries bundle).length = entries

end Prover

section Sides
variable {H : List UInt8 → Bytes32} {c : ℕ} {B : AuditBlindings}
  {side : RgkAllocationTranscriptSide} {totalCount : UInt64} {chain : KaspaChainId}

/-- A statement made from a full segment. -/
def MadeFrom (H : List UInt8 → Bytes32) (B : AuditBlindings) (chain : KaspaChainId)
    (side : RgkAllocationTranscriptSide) (totalCount : UInt64)
    (s : AllocationConservationSegmentStatement c) (segment : List RgkAllocation) : Prop :=
  ∃ amount, FullSegment c chain segment amount ∧
    s.transcript = segmentStatement H c chain side totalCount s.transcript.previousRoot
      s.transcript.segmentIndex segment amount (B.amount side s.transcript.segmentIndex.toNat)

/-- The statements of a side from a segment on: each made from its segment, with contiguous
indices, linked roots and linked totals. -/
structure SideBuilt (H : List UInt8 → Bytes32) (B : AuditBlindings) (chain : KaspaChainId)
    (side : RgkAllocationTranscriptSide) (totalCount : UInt64) (index : ℕ) (root : Bytes32)
    (before after : UInt64) (segments : List (List RgkAllocation))
    (statements : List (AllocationConservationSegmentStatement c)) : Prop where
  made : List.Forall₂ (MadeFrom H B chain side totalCount) statements segments
  indices : statements.map (fun s => s.transcript.segmentIndex.toNat) =
    List.range' index segments.length
  roots : ∃ final, Linked (fun s => s.transcript.previousRoot) (fun s => s.transcript.nextRoot) root
    statements final
  totals : Linked AllocationConservationSegmentStatement.previousTotalCommitment
    AllocationConservationSegmentStatement.nextTotalCommitment
    (allocationConservationTotalCommitment H side totalCount before (B.total side index))
    statements
    (allocationConservationTotalCommitment H side totalCount after
      (B.total side (index+segments.length)))

lemma honestSide_built {segments : List (List RgkAllocation)}
    (hfull : ∀ segment ∈ segments, ∃ amount, FullSegment c chain segment amount)
    (hcount : c ≤ totalCount.toNat) {index : ℕ} {root : Bytes32} {before after : UInt64}
    (hindex : index + segments.length ≤ 2^64) (hstart : index = 0 → before = 0)
    (hafter : after.toNat = before.toNat + (segments.map supplyOf).sum) :
    ∃ statements, honestSide H c B side totalCount index root before segments =
        .ok (statements, after) ∧
      SideBuilt H B chain side totalCount index root before after segments statements := by
  induction segments generalizing index root before with
  | nil =>
    obtain rfl : after = before := UInt64.toNat_inj.mp hafter
    exact ⟨[], rfl, .nil, rfl, ⟨root, rfl⟩, rfl⟩
  | cons segment segments ih =>
    obtain ⟨⟨amount, hseg⟩, hrest⟩ := List.forall_mem_cons.mp hfull
    rw [List.length_cons] at hindex
    rw [List.map_cons, List.sum_cons, ← hseg.sum] at hafter
    have hlt := after.toNat_lt
    have hsize : UInt64.size = 2^64 := rfl
    have hnat : (UInt64.ofNat index).toNat = index := UInt64.toNat_ofNat_of_lt' (by omega)
    have hzero : UInt64.ofNat index = 0 → before = 0 := by
      intro hz
      rw [hz] at hnat
      exact hstart hnat.symm
    -- the running total behind this segment
    obtain ⟨mid, hmid⟩ : ∃ mid : UInt64, mid.toNat = before.toNat + amount.toNat :=
      ⟨UInt64.ofNat (before.toNat + amount.toNat), UInt64.toNat_ofNat_of_lt' (by omega)⟩
    have hmade := @conservation_fromAllocations H c chain segment amount totalCount before mid hseg
      hcount hmid root side (UInt64.ofNat index) hzero (B.amount side index) (B.total side index)
      (B.total side (index+1)) (B.total_ne side index) (B.total_ne side (index+1))
    obtain ⟨statements, hbuild, hbuilt⟩ := @ih hrest (index+1)
      (extendAllocationTranscriptRoot H root side (UInt64.ofNat index) totalCount segment) mid
      (by omega) (by omega) (by omega)
    refine ⟨_ :: statements, bind_eq_ok.mpr ⟨_, hmade, bind_eq_ok.mpr ⟨amount,
      amountSum_eq_ok.mpr hseg.sum, bind_eq_ok.mpr ⟨mid, okOr_eq_ok.mpr
        (checkedAdd_eq_some.mpr hmid), bind_eq_ok.mpr ⟨_, hbuild, rfl⟩⟩⟩⟩, ?_⟩
    refine ⟨.cons ⟨amount, hseg, ?_⟩ hbuilt.made, ?_, ?_, ?_⟩
    · rw [segmentStatement, hnat]
      rfl
    · rw [List.map_cons, hbuilt.indices, List.length_cons, List.range'_succ, segmentStatement, hnat]
    · obtain ⟨final, hfinal⟩ := hbuilt.roots
      exact ⟨final, rfl, hfinal⟩
    · have hend : index + (segments.length+1) = index+1 + segments.length := by omega
      rw [List.length_cons, hend]
      exact ⟨rfl, hbuilt.totals⟩

variable {segments : List (List RgkAllocation)} {before after : UInt64}
  {statements : List (AllocationConservationSegmentStatement c)}

lemma SideBuilt.length_eq {index : ℕ} {root : Bytes32}
    (h : SideBuilt H B chain side totalCount index root before after segments statements) :
    statements.length = segments.length :=
  h.made.length_eq

lemma SideBuilt.uniform {index : ℕ} {root : Bytes32}
    (h : SideBuilt H B chain side totalCount index root before after segments statements) :
    ∀ s ∈ statements, s.transcript.side = side ∧ s.transcript.chainId = chain ∧
      s.transcript.totalCount = totalCount := by
  have hboth := h.made.imp (fun s segment hmade =>
    show (s.transcript.side = side ∧ s.transcript.chainId = chain ∧
      s.transcript.totalCount = totalCount) ∧ MadeFrom H B chain side totalCount s segment from by
      obtain ⟨amount, hfull, heq⟩ := hmade
      refine ⟨?_, amount, hfull, heq⟩
      rw [heq]
      exact ⟨rfl, rfl, rfl⟩)
  exact ((List.forall₂_and_left _ _).mp hboth).1

lemma SideBuilt.map_fst_zip {index : ℕ} {root : Bytes32}
    (h : SideBuilt H B chain side totalCount index root before after segments statements) :
    (statements.zip segments).map Prod.fst = statements :=
  List.map_fst_zip h.length_eq.le

lemma SideBuilt.mem_of_zip {index : ℕ} {root : Bytes32}
    (h : SideBuilt H B chain side totalCount index root before after segments statements)
    {x : AllocationConservationSegmentStatement c × List RgkAllocation}
    (hx : x ∈ statements.zip segments) : x.1 ∈ statements :=
  h.map_fst_zip ▸ List.mem_map_of_mem hx

lemma SideBuilt.zip_nodup {index : ℕ} {root : Bytes32}
    (h : SideBuilt H B chain side totalCount index root before after segments statements) :
    ((statements.zip segments).map (fun x => x.1.transcript.segmentIndex.toNat)).Nodup := by
  have hmap : (statements.zip segments).map (fun x => x.1.transcript.segmentIndex.toNat) =
      ((statements.zip segments).map Prod.fst).map (fun s => s.transcript.segmentIndex.toNat) := by
    rw [List.map_map]
    rfl
  rw [hmap, h.map_fst_zip, h.indices]
  exact List.nodup_range'

lemma SideBuilt.transcriptChain
    (h : SideBuilt H B chain side totalCount 0 (allocationTranscriptEmptyRoot H side) before after
      segments statements)
    (hne : segments ≠ []) (htotal : totalCount.toNat = segments.length*c) :
    ∃ final, TranscriptChain H side
      (statements.map AllocationConservationSegmentStatement.transcript) chain totalCount final := by
  obtain ⟨final, hlinked⟩ := h.roots
  refine ⟨final, ?_, ?_, ?_, ?_, (linked_map_edges _).mpr hlinked⟩
  · intro hnil
    have hlen := h.length_eq
    rw [List.map_eq_nil_iff.mp hnil, List.length_nil] at hlen
    exact hne (List.length_eq_zero_iff.mp hlen.symm)
  · rw [List.length_map, h.length_eq, htotal]
  · intro t ht
    obtain ⟨s, hs, rfl⟩ := List.mem_map.mp ht
    exact h.uniform s hs
  · rw [List.map_map, List.length_map, h.length_eq, List.range_eq_range']
    exact h.indices

end Sides

section Cut
variable {c m : ℕ} {chain : KaspaChainId} {as : List RgkAllocation} {supply : UInt64}

@[simp] lemma length_cutSegments : (cutSegments c m as).length = m := by simp [cutSegments]

lemma sum_cutSegments (hlen : as.length = m*c) :
    ((cutSegments c m as).map supplyOf).sum = supplyOf as := by
  have hsorted : (sortByKey allocationKey as).length = m*c := by rw [length_sortByKey, hlen]
  have hsum := sum_map_flatMap (segmentAt c (sortByKey allocationKey as))
    (fun a : RgkAllocation => a.amount.toNat) (List.range m)
  rw [flatMap_segmentAt hsorted] at hsum
  rw [cutSegments, List.map_map]
  exact hsum.symm.trans (natSum_perm (sortByKey_perm allocationKey as))

lemma cutSegments_full (hset : IsAllocationSet chain as supply) (hc : c ≠ 0)
    (hlen : as.length = m*c) :
    ∀ segment ∈ cutSegments c m as, ∃ amount, FullSegment c chain segment amount := by
  intro segment hsegment
  have hle : supplyOf segment ≤ supplyOf as := by
    rw [← sum_cutSegments hlen]
    exact List.single_le_sum (fun _ _ => Nat.zero_le _) _ (List.mem_map_of_mem hsegment)
  have hlt := supply.toNat_lt
  rw [hset.sum] at hlt
  obtain ⟨i, hi, rfl⟩ := List.mem_map.mp hsegment
  have hsorted : (sortByKey allocationKey as).length = m*c := by rw [length_sortByKey, hlen]
  refine ⟨UInt64.ofNat (supplyOf _), hc, length_segmentAt hsorted (List.mem_range.mp hi), ?_,
    UInt64.toNat_ofNat_of_lt' (lt_of_le_of_lt hle hlt)⟩
  intro a ha
  exact hset.each a ((sortByKey_perm allocationKey as).mem_iff.mp (mem_of_mem_segmentAt ha))

lemma honestSide_of_cut {H : List UInt8 → Bytes32} (B : AuditBlindings)
    (side : RgkAllocationTranscriptSide) (hset : IsAllocationSet chain as supply) (hc : c ≠ 0)
    (hm : m ≠ 0) (hlen : as.length = m*c) (root : Bytes32) :
    ∃ statements, honestSide H c B side (UInt64.ofNat as.length) 0 root 0 (cutSegments c m as) =
        .ok (statements, supply) ∧
      SideBuilt H B chain side (UInt64.ofNat as.length) 0 root 0 supply (cutSegments c m as)
        statements := by
  have hlt := hset.length_lt
  have hcount := hset.toNat_length
  have hc_le : c ≤ m*c := Nat.le_mul_of_pos_left c (Nat.pos_of_ne_zero hm)
  have hm_le : m ≤ m*c := Nat.le_mul_of_pos_right m (Nat.pos_of_ne_zero hc)
  have hsegments : (cutSegments c m as).length = m := length_cutSegments
  refine honestSide_built (cutSegments_full hset hc hlen) (by omega) (by omega) (fun _ => rfl) ?_
  rw [sum_cutSegments hlen, hset.sum, UInt64.toNat_zero, Nat.zero_add]

section Built
variable {H : List UInt8 → Bytes32} {B : AuditBlindings} {side : RgkAllocationTranscriptSide}
  {before after : UInt64} {statements : List (AllocationConservationSegmentStatement c)}

lemma SideBuilt.chain_of_cut
    (h : SideBuilt H B chain side (UInt64.ofNat as.length) 0 (allocationTranscriptEmptyRoot H side)
      before after (cutSegments c m as) statements)
    (hset : IsAllocationSet chain as supply) (hm : m ≠ 0) (hlen : as.length = m*c) :
    ∃ final, TranscriptChain H side
      (statements.map AllocationConservationSegmentStatement.transcript) chain
      (UInt64.ofNat as.length) final := by
  refine h.transcriptChain (List.ne_nil_of_length_pos ?_) ?_
  · rw [length_cutSegments]
    exact Nat.pos_of_ne_zero hm
  · rw [hset.toNat_length, length_cutSegments, hlen]

lemma SideBuilt.totals_of_cut {totalCount : UInt64} {root : Bytes32}
    (h : SideBuilt H B chain side totalCount 0 root before after (cutSegments c m as) statements) :
    Linked AllocationConservationSegmentStatement.previousTotalCommitment
      AllocationConservationSegmentStatement.nextTotalCommitment
      (allocationConservationTotalCommitment H side totalCount before (B.total side 0)) statements
      (allocationConservationTotalCommitment H side totalCount after (B.total side m)) := by
  have htotals := h.totals
  rwa [length_cutSegments, Nat.zero_add] at htotals

end Built
end Cut

section Grid
variable {H : List UInt8 → Bytes32} {B : AuditBlindings} {chain : KaspaChainId} {c : ℕ}
  {spentTotal newTotal spentBefore spentAfter newBefore newAfter : UInt64}
  {spentRoot newRoot : Bytes32} {spentCut newCut : List (List RgkAllocation)}
  {spent new : List (AllocationConservationSegmentStatement c)}

/-- The statements of all pairs, row by row. -/
def allPairs (spent new : List (AllocationConservationSegmentStatement c))
    (spentCut newCut : List (List RgkAllocation)) :
    List (AllocationExclusionSegmentPairStatement c c) :=
  ((spent.zip spentCut) ×ˢ (new.zip newCut)).map
    (fun p => pairStatement p.1.1.transcript p.2.1.transcript)

variable (hs : SideBuilt H B chain .spent spentTotal 0 spentRoot spentBefore spentAfter spentCut
    spent)
  (hn : SideBuilt H B chain .new newTotal 0 newRoot newBefore newAfter newCut new)
include hs hn

lemma exclusions_built (hst : c ≤ spentTotal.toNat) (hnt : c ≤ newTotal.toNat) :
    mapEach (fun p => AllocationExclusionSegmentPairStatement.fromAllocations H c c
        p.1.1.transcript.previousRoot p.2.1.transcript.previousRoot p.1.1.transcript.segmentIndex
        p.2.1.transcript.segmentIndex spentTotal newTotal p.1.2 p.2.2
        (B.amount .spent p.1.1.transcript.segmentIndex.toNat)
        (B.amount .new p.2.1.transcript.segmentIndex.toNat))
      ((spent.zip spentCut) ×ˢ (new.zip newCut)) = .ok (allPairs spent new spentCut newCut) := by
  refine mapEach_eq_ok.mpr ?_
  rw [allPairs, List.forall₂_map_right_iff, List.forall₂_same]
  rintro ⟨⟨s, spentSegment⟩, n, newSegment⟩ hp
  obtain ⟨hsp, hnp⟩ := List.mem_product.mp hp
  obtain ⟨spentAmount, hsfull, hseq⟩ := List.forall₂_zip hs.made hsp
  obtain ⟨newAmount, hnfull, hneq⟩ := List.forall₂_zip hn.made hnp
  have hpair := @exclusion_fromAllocations H chain c c _ _ _ _ spentTotal newTotal hsfull hnfull hst
    hnt s.transcript.previousRoot n.transcript.previousRoot s.transcript.segmentIndex
    n.transcript.segmentIndex (B.amount .spent s.transcript.segmentIndex.toNat)
    (B.amount .new n.transcript.segmentIndex.toNat)
  rwa [← hseq, ← hneq] at hpair

lemma allPairs_nodup :
    ((allPairs spent new spentCut newCut).map pairIndices).Nodup := by
  rw [allPairs, List.map_map]
  refine List.Nodup.map_on ?_ (List.Nodup.product hs.zip_nodup.of_map hn.zip_nodup.of_map)
  intro p hp q hq hpq
  obtain ⟨hps, hpn⟩ := List.mem_product.mp hp
  obtain ⟨hqs, hqn⟩ := List.mem_product.mp hq
  have hfst : p.1.1.transcript.segmentIndex = q.1.1.transcript.segmentIndex :=
    congrArg Prod.fst hpq
  have hsnd : p.2.1.transcript.segmentIndex = q.2.1.transcript.segmentIndex :=
    congrArg Prod.snd hpq
  exact Prod.ext (List.inj_on_of_nodup_map hs.zip_nodup hps hqs (congrArg UInt64.toNat hfst))
    (List.inj_on_of_nodup_map hn.zip_nodup hpn hqn (congrArg UInt64.toNat hsnd))

lemma length_allPairs :
    (allPairs spent new spentCut newCut).length = spentCut.length*newCut.length := by
  rw [allPairs, List.length_map, List.length_product, ← List.length_map Prod.fst, hs.map_fst_zip,
    ← List.length_map Prod.fst, hn.map_fst_zip, hs.length_eq, hn.length_eq]

lemma exclusionGrid_built (hfits : spentCut.length*newCut.length < 2^64) :
    ExclusionGrid (spent.map AllocationConservationSegmentStatement.transcript)
      (new.map AllocationConservationSegmentStatement.transcript)
      (allPairs spent new spentCut newCut) := by
  have hsegments : ∀ p ∈ (spent.zip spentCut) ×ˢ (new.zip newCut),
      (pairStatement p.1.1.transcript p.2.1.transcript).spentSegment = p.1.1.transcript ∧
        (pairStatement p.1.1.transcript p.2.1.transcript).newSegment = p.2.1.transcript := by
    intro p hp
    obtain ⟨hsp, hnp⟩ := List.mem_product.mp hp
    obtain ⟨hside, hchain, -⟩ := hs.uniform _ (hs.mem_of_zip hsp)
    obtain ⟨hside', hchain', -⟩ := hn.uniform _ (hn.mem_of_zip hnp)
    exact pairStatement_segments hside hside' (hchain.trans hchain'.symm)
  refine ⟨?_, ?_, allPairs_nodup hs hn, ?_, ?_⟩
  · rw [List.length_map, List.length_map, hs.length_eq, hn.length_eq]
    exact hfits
  · rw [length_allPairs hs hn, List.length_map, List.length_map, hs.length_eq, hn.length_eq]
  · intro e he
    obtain ⟨p, hp, rfl⟩ := List.mem_map.mp he
    obtain ⟨hsp, hnp⟩ := List.mem_product.mp hp
    rw [(hsegments p hp).1, (hsegments p hp).2]
    exact ⟨List.mem_map_of_mem (hs.mem_of_zip hsp), List.mem_map_of_mem (hn.mem_of_zip hnp)⟩
  · intro s hsm n hnm
    obtain ⟨s, hs', rfl⟩ := List.mem_map.mp hsm
    obtain ⟨n, hn', rfl⟩ := List.mem_map.mp hnm
    obtain ⟨x, hx, rfl⟩ := List.mem_map.mp (hs.map_fst_zip.symm ▸ hs')
    obtain ⟨y, hy, rfl⟩ := List.mem_map.mp (hn.map_fst_zip.symm ▸ hn')
    exact List.mem_map.mpr ⟨_, List.mem_map_of_mem (List.mem_product.mpr ⟨hx, hy⟩), rfl⟩

end Grid

section Bundle
variable {H : List UInt8 → Bytes32} {c spentSegments newSegments : ℕ} {t : RgkTransition}
  {supply : UInt64}

/-- Sides of equal supply, both cut into full segments, are built into an accepted bundle. -/
theorem honestBundle_accepted (B : AuditBlindings)
    (hspent : IsAllocationSet t.chain t.spentAllocations supply)
    (hnew : IsAllocationSet t.chain t.newAllocations supply) (hc : c ≠ 0)
    (hs : spentSegments ≠ 0) (hn : newSegments ≠ 0)
    (hslen : t.spentAllocations.length = spentSegments*c)
    (hnlen : t.newAllocations.length = newSegments*c)
    (hfits : spentSegments*newSegments < 2^64) :
    ∃ bundle audit, honestBundle H c spentSegments newSegments t B = .ok bundle ∧
      verifyAllocationAuditBundle H bundle = .ok audit ∧
      audit.spentTotalCount.toNat = t.spentAllocations.length ∧
      audit.newTotalCount.toNat = t.newAllocations.length ∧
      (allocationAuditManifestEntries bundle).length =
        (spentSegments+newSegments)*2 + 1 + spentSegments*newSegments := by
  have hscount := IsAllocationSet.toNat_length hspent
  have hncount := IsAllocationSet.toNat_length hnew
  have hsc : c ≤ spentSegments*c := Nat.le_mul_of_pos_left c (Nat.pos_of_ne_zero hs)
  have hnc : c ≤ newSegments*c := Nat.le_mul_of_pos_left c (Nat.pos_of_ne_zero hn)
  obtain ⟨spent, hspentBuild, hspentBuilt⟩ := @honestSide_of_cut c spentSegments _ _ _ H B .spent
    hspent hc hs hslen (allocationTranscriptEmptyRoot H .spent)
  obtain ⟨new, hnewBuild, hnewBuilt⟩ := @honestSide_of_cut c newSegments _ _ _ H B .new
    hnew hc hn hnlen (allocationTranscriptEmptyRoot H .new)
  obtain ⟨spentFinal, hspentChain⟩ := hspentBuilt.chain_of_cut hspent hs hslen
  obtain ⟨newFinal, hnewChain⟩ := hnewBuilt.chain_of_cut hnew hn hnlen
  have hexclusions := exclusions_built hspentBuilt hnewBuilt (by omega) (by omega)
  have hgrid := exclusionGrid_built hspentBuilt hnewBuilt
    (by rwa [length_cutSegments, length_cutSegments])
  obtain ⟨hspentCount, hsupply⟩ := IsAllocationSet.ne_zero hspent (by omega)
  obtain ⟨hnewCount, -⟩ := IsAllocationSet.ne_zero hnew (by omega)
  have hfinal := fromTotal_eq_ok (H := H) |>.mpr ⟨⟨hspentCount, hnewCount⟩, hsupply,
    ⟨B.total_ne .spent spentSegments, B.total_ne .new newSegments⟩, rfl⟩
  refine ⟨_, ⟨t.chain, _, _, _, _, _, spentFinal, newFinal, _, _⟩, bind_eq_ok.mpr ⟨_, hspentBuild,
    bind_eq_ok.mpr ⟨_, hnewBuild, bind_eq_ok.mpr ⟨_, hfinal, bind_eq_ok.mpr ⟨_, hexclusions,
      rfl⟩⟩⟩⟩, verifyAllocationAuditBundle_eq_ok.mpr ⟨hc, hc, hspentChain, hnewChain, rfl, rfl, rfl,
      rfl, ⟨_, hspentBuilt.totals_of_cut⟩, ⟨_, hnewBuilt.totals_of_cut⟩, hgrid, rfl, rfl, rfl, rfl,
      rfl⟩, hscount, hncount, ?_⟩
  have hpairs := hgrid.size
  rw [length_manifestEntries]
  simp only [List.length_map, hspentBuilt.length_eq, hnewBuilt.length_eq, length_cutSegments]
    at hpairs ⊢
  omega

end Bundle

section Carrying
variable {H : List UInt8 → Bytes32}

lemma finalize_accepted {p : RgkContinuationPlan} {witnessTxid : Bytes32}
    {daaScore confirmationDepth : UInt64} {fin : RgkFinalizedContinuation}
    (h : RgkContinuationPlan.finalize H p witnessTxid daaScore confirmationDepth = .ok fin) :
    AcceptedTransition H fin.transition fin.transitionReport := by
  obtain ⟨_, -, h⟩ := bind_eq_ok.mp h
  obtain ⟨report, hreport, h⟩ := bind_eq_ok.mp h
  rw [← Except.ok.inj h]
  exact RgkTransition.validate_inv hreport

lemma burn_eq_none_iff {t : RgkTransition} {report : RgkTransitionReport}
    (h : AcceptedTransition H t report) :
    t.burn = none ↔ report.spentSupply = report.newSupply := by
  have hdelta := h.delta
  have haccounts := h.burn
  cases hb : t.burn with
  | none =>
    rw [hb] at haccounts
    rw [show report.burnedSupply = 0 from haccounts, UInt64.toNat_zero, Nat.add_zero] at hdelta
    exact iff_of_true rfl (UInt64.toNat_inj.mp hdelta)
  | some proof =>
    rw [hb] at haccounts
    have hburned : report.burnedSupply.toNat ≠ 0 := fun hz =>
      haccounts.1 (UInt64.toNat_inj.mp hz)
    refine iff_of_false nofun ?_
    intro heq
    rw [heq] at hdelta
    omega

lemma accepted_counts {c : ℕ} {bundle : AllocationAuditBundle c c}
    {audit : AllocationAuditBundleReport}
    (h : verifyAllocationAuditBundle H bundle = .ok audit) :
    c ∣ audit.spentTotalCount.toNat ∧ c ∣ audit.newTotalCount.toNat := by
  have hp := verifyAllocationAuditBundle_eq_ok.mp h
  rw [hp.spentChain.total, hp.newChain.total]
  exact ⟨Nat.dvd_mul_left _ _, Nat.dvd_mul_left _ _⟩

/-- The strings hashed for the two supplies as the last total of the new side. -/
def supplyPreimages (newCount spentSupply newSupply : UInt64) (blinding : Bytes32) :
    Set (List UInt8) :=
  {totalPreimage .new newCount spentSupply blinding, totalPreimage .new newCount newSupply blinding}

/-- The audit closes with the spent supply as the total of both sides, so an accepted one has
equal supplies. -/
lemma honestBundle_conserves {c spentSegments newSegments : ℕ} {t : RgkTransition}
    {spentSupply newSupply : UInt64} {B : AuditBlindings} {bundle : AllocationAuditBundle c c}
    {audit : AllocationAuditBundleReport}
    (hspent : IsAllocationSet t.chain t.spentAllocations spentSupply)
    (hnew : IsAllocationSet t.chain t.newAllocations newSupply) (hc : c ≠ 0)
    (hs : spentSegments ≠ 0) (hn : newSegments ≠ 0)
    (hslen : t.spentAllocations.length = spentSegments*c)
    (hnlen : t.newAllocations.length = newSegments*c)
    (hcf : CollisionFree H (supplyPreimages (UInt64.ofNat t.newAllocations.length) spentSupply
      newSupply (B.total .new newSegments)))
    (hbuild : honestBundle H c spentSegments newSegments t B = .ok bundle)
    (haudit : verifyAllocationAuditBundle H bundle = .ok audit) : spentSupply = newSupply := by
  obtain ⟨spent, hspentBuild, -⟩ := @honestSide_of_cut c spentSegments _ _ _ H B .spent
    hspent hc hs hslen (allocationTranscriptEmptyRoot H .spent)
  obtain ⟨new, hnewBuild, hnewBuilt⟩ := @honestSide_of_cut c newSegments _ _ _ H B .new
    hnew hc hn hnlen (allocationTranscriptEmptyRoot H .new)
  obtain ⟨_, hspent', hbuild⟩ := bind_eq_ok.mp hbuild
  obtain rfl := Except.ok.inj (hspentBuild.symm.trans hspent')
  obtain ⟨_, hnew', hbuild⟩ := bind_eq_ok.mp hbuild
  obtain rfl := Except.ok.inj (hnewBuild.symm.trans hnew')
  obtain ⟨final, hfinal, hbuild⟩ := bind_eq_ok.mp hbuild
  obtain ⟨exclusions, -, hbuild⟩ := bind_eq_ok.mp hbuild
  obtain rfl := Except.ok.inj hbuild
  obtain ⟨-, -, -, rfl⟩ := fromTotal_eq_ok.mp hfinal
  have hne : new ≠ [] := by
    have hlen := hnewBuilt.length_eq
    rintro rfl
    exact hn (length_cutSegments.symm.trans hlen.symm)
  -- the new side ends at its own supply and, in the final statement, at the spent supply
  have hown := hnewBuilt.totals_of_cut
  obtain ⟨start, hclosed⟩ := (verifyAllocationAuditBundle_eq_ok.mp haudit).newTotals
  have hlast := List.getLast?_eq_some_getLast hne
  exact total_eq_of_commitment_eq hcf (Or.inl rfl) (Or.inr rfl)
    ((hclosed.getLast hlast).symm.trans (hown.getLast hlast))

/-- One blinding for every commitment. -/
@[simps] def AuditBlindings.const (blinding : Bytes32) (h : blinding ≠ Bytes.zero) :
    AuditBlindings where
  amount _ _ := blinding
  total _ _ := blinding
  amount_ne _ _ := h
  total_ne _ _ := h

end Carrying

/-- A planned audit of a finalized transition with the planned counts can be carried out exactly
when the capacity divides both counts and nothing is burned. -/
theorem planned_audit_carried_out_iff (H : List UInt8 → Bytes32) (r : RgkContinuationReport)
    (c spentSegments newSegments pairs entries : ℕ) (p : RgkContinuationPlan)
    (witnessTxid : Bytes32) (daaScore confirmationDepth : UInt64) (fin : RgkFinalizedContinuation)
    (hplan : forContinuationReport r =
      .ok (.segmentedAllocationAudit c spentSegments newSegments pairs entries))
    (hfin : RgkContinuationPlan.finalize H p witnessTxid daaScore confirmationDepth = .ok fin)
    (hspentCount : fin.transition.spentAllocations.length = r.spentAllocationCount)
    (hnewCount : fin.transition.newAllocations.length = r.newAllocationCount)
    (hcf : ∃ blinding, blinding ≠ Bytes.zero ∧ CollisionFree H (supplyPreimages
      (UInt64.ofNat fin.transition.newAllocations.length) fin.transitionReport.spentSupply
      fin.transitionReport.newSupply blinding)) :
    AuditCarriedOut H r c spentSegments newSegments entries fin.transition ↔
      c ∣ r.spentAllocationCount ∧ c ∣ r.newAllocationCount ∧ fin.transition.burn = none := by
  have hplanned := forContinuationReport_inv hplan
  have haccepted := finalize_accepted hfin
  rw [burn_eq_none_iff haccepted]
  have hspentCut : c ∣ r.spentAllocationCount → spentSegments*c = r.spentAllocationCount := by
    intro hdvd
    rw [hplanned.spent_segments, divCeil_mul hplanned.capacity hdvd]
  have hnewCut : c ∣ r.newAllocationCount → newSegments*c = r.newAllocationCount := by
    intro hdvd
    rw [hplanned.new_segments, divCeil_mul hplanned.capacity hdvd]
  have hspentNe : c ∣ r.spentAllocationCount → spentSegments ≠ 0 := by
    rintro hdvd rfl
    exact hplanned.spent_ne (by rw [← hspentCut hdvd, Nat.zero_mul])
  have hnewNe : c ∣ r.newAllocationCount → newSegments ≠ 0 := by
    rintro hdvd rfl
    exact hplanned.new_ne (by rw [← hnewCut hdvd, Nat.zero_mul])
  constructor
  · intro h
    obtain ⟨blinding, hne, hcf⟩ := hcf
    obtain ⟨bundle, audit, hbuild, haudit, hspent, hnew, -⟩ := h (.const blinding hne)
    obtain ⟨hspentDvd, hnewDvd⟩ := accepted_counts haudit
    rw [hspent] at hspentDvd
    rw [hnew] at hnewDvd
    exact ⟨hspentDvd, hnewDvd, honestBundle_conserves haccepted.spent haccepted.new
      hplanned.capacity (hspentNe hspentDvd) (hnewNe hnewDvd)
      (hspentCount.trans (hspentCut hspentDvd).symm) (hnewCount.trans (hnewCut hnewDvd).symm)
      (by rwa [AuditBlindings.const_total]) hbuild haudit⟩
  · rintro ⟨hspentDvd, hnewDvd, hsupply⟩ B
    have hspentSet := haccepted.spent
    rw [hsupply] at hspentSet
    obtain ⟨bundle, audit, hbuild, haudit, hs, hn, hentries⟩ := honestBundle_accepted B
      hspentSet haccepted.new hplanned.capacity (hspentNe hspentDvd) (hnewNe hnewDvd)
      (hspentCount.trans (hspentCut hspentDvd).symm) (hnewCount.trans (hnewCut hnewDvd).symm)
      hplanned.fits
    refine ⟨bundle, audit, hbuild, haudit, hs.trans hspentCount, hn.trans hnewCount, ?_⟩
    rw [hentries, hplanned.proofs, hplanned.size]

section Samples

def sampleSpent : List RgkAllocation := [sampleAllocation 1 1 4, sampleAllocation 1 2 6]

lemma sample_planned {shapes : List RgkContinuationAllocationShape}
    (hnew : validateAllocationSetStructureAllowEmpty .kaspaSimnet
      (sampleFinal sampleSpent shapes).newAllocations = .ok 10)
    (hfresh : rejectReusedSpentAnchors sampleSpent
      (sampleFinal sampleSpent shapes).newAllocations = .ok ())
    (hv : (sampleStatement sampleSpent shapes).validate = .ok ())
    (hshapes : validateContinuationShapesStructureAllowEmpty shapes none = .ok 10) :
    RgkContinuationPlan.validate Sha256.digest (samplePlan sampleSpent shapes) =
        .ok (sampleReport sampleSpent shapes) ∧
      ∃ fin, RgkContinuationPlan.finalize Sha256.digest (samplePlan sampleSpent shapes) sampleTxid
          100 10 = .ok fin ∧ fin.transition = sampleFinal sampleSpent shapes ∧
        fin.transitionReport.spentSupply = fin.transitionReport.newSupply := by
  have haccepted := CircuitCompleteness.sample_accepted (by decide +kernel) hnew hfresh hv
  have hvalidate : RgkContinuationPlan.validate Sha256.digest (samplePlan sampleSpent shapes) =
      .ok (sampleReport sampleSpent shapes) :=
    unit_bind_eq_ok.mpr (RgkContinuationPlan.validate_of_accepted haccepted hshapes)
  exact ⟨hvalidate, _, bind_eq_ok.mpr ⟨_, hvalidate,
    bind_eq_ok.mpr ⟨_, RgkTransition.validate_of_accepted haccepted, rfl⟩⟩, rfl, rfl⟩

def splitShapes : List RgkContinuationAllocationShape :=
  [sampleShape 0 1, sampleShape 1 2, sampleShape 2 3, sampleShape 3 4]

def mergeShapes : List RgkContinuationAllocationShape := [sampleShape 0 10]

end Samples

/-- Two allocations become four: one spent segment, two new ones and nine proofs. -/
theorem planned_audit_carried_out_iff_sample :
    ∃ fin, RgkContinuationPlan.finalize Sha256.digest (samplePlan sampleSpent splitShapes)
        sampleTxid 100 10 = .ok fin ∧
      AuditCarriedOut Sha256.digest (sampleReport sampleSpent splitShapes) 2 1 2 9
        fin.transition := by
  obtain ⟨-, fin, hfin, htransition, hsupply⟩ := @sample_planned splitShapes (by decide +kernel)
    (by decide +kernel) (by decide +kernel) (by decide +kernel)
  refine ⟨fin, hfin, ?_⟩
  refine (planned_audit_carried_out_iff Sha256.digest (sampleReport sampleSpent splitShapes) 2 1 2 2
    9 (samplePlan sampleSpent splitShapes) sampleTxid 100 10 fin rfl hfin (by rw [htransition]; rfl)
    (by rw [htransition]; rfl) ?_).mpr ⟨by decide, by decide, by rw [htransition]; rfl⟩
  refine ⟨Bytes.fill 32 7, by decide, ?_⟩
  rw [hsupply, supplyPreimages, Set.pair_eq_singleton]
  exact Set.injOn_singleton _ _

/-- Two allocations merged into one are planned as one segment each, but no audit in segments of
two covers one new allocation. -/
theorem planned_audit_not_carried_out :
    RgkContinuationPlan.validate Sha256.digest (samplePlan sampleSpent mergeShapes) =
        .ok (sampleReport sampleSpent mergeShapes) ∧
      forContinuationReport (sampleReport sampleSpent mergeShapes) =
        .ok (.segmentedAllocationAudit 2 1 1 1 6) ∧
      ∃ fin, RgkContinuationPlan.finalize Sha256.digest (samplePlan sampleSpent mergeShapes)
          sampleTxid 100 10 = .ok fin ∧
        fin.transition.newAllocations.length = 1 ∧
        ¬AuditCarriedOut Sha256.digest (sampleReport sampleSpent mergeShapes) 2 1 1 6
          fin.transition ∧
        ∀ (bundle : AllocationAuditBundle 2 2) (audit : AllocationAuditBundleReport),
          verifyAllocationAuditBundle Sha256.digest bundle = .ok audit →
            audit.newTotalCount.toNat ≠ 1 := by
  obtain ⟨hvalidate, fin, hfin, htransition, -⟩ := @sample_planned mergeShapes (by decide +kernel)
    (by decide +kernel) (by decide +kernel) (by decide +kernel)
  have hodd : ∀ (bundle : AllocationAuditBundle 2 2) (audit : AllocationAuditBundleReport),
      verifyAllocationAuditBundle Sha256.digest bundle = .ok audit →
        audit.newTotalCount.toNat ≠ 1 := by
    intro bundle audit haudit hone
    have hdvd := (accepted_counts haudit).2
    rw [hone] at hdvd
    exact absurd hdvd (by decide)
  refine ⟨hvalidate, rfl, fin, hfin, by rw [htransition]; rfl, ?_, hodd⟩
  intro h
  obtain ⟨bundle, audit, -, haudit, -, hnew, -⟩ := h (.const (Bytes.fill 32 7) (by decide))
  exact hodd bundle audit haudit hnew

end RgkProtocol.AuditPlan
