import RgkProtocol.CircuitGadgets

/-!
# Statements of the segmented allocation audit

A side of a transition is split into segments of fixed arity. Each segment has a transcript
statement, a conservation statement that extends it with running totals, and one exclusion
statement for every segment of the other side; one final statement equates the two totals.
-/
namespace RgkProtocol.AuditStatements
open ByteStrings Hashing CoreTypes Checked AssetTypes SemanticStatement CircuitGadgets

inductive RgkAllocationTranscriptSide where
  | spent
  | new
  deriving DecidableEq

def RgkAllocationTranscriptSide.asU8 : RgkAllocationTranscriptSide → UInt8
  | spent => 0
  | new => 1

section Commitments
variable (H : List UInt8 → Bytes32)

def allocationTranscriptEmptyRoot (side : RgkAllocationTranscriptSide) : Bytes32 :=
  domainHashStr H "rgk:asset:allocation-transcript-empty-root:v1" [side.asU8]

/-- What a segment root is computed from; the records stand in the order given. -/
def segmentRootPayload (previousRoot : Bytes32) (side : RgkAllocationTranscriptSide)
    (segmentIndex totalCount : UInt64) (allocations : List (List UInt8)) : List UInt8 :=
  previousRoot.toList ++ ([side.asU8] ++ (le64 segmentIndex ++ (le64 totalCount ++
    (le64 (UInt64.ofNat allocations.length) ++ allocations.flatten))))

def allocationTranscriptSegmentRootFromWitness (previousRoot : Bytes32)
    (side : RgkAllocationTranscriptSide) (segmentIndex totalCount : UInt64)
    (allocations : List (List UInt8)) : Bytes32 :=
  domainHashStr H "rgk:asset:allocation-transcript-segment-root:v1"
    (segmentRootPayload previousRoot side segmentIndex totalCount allocations)

def allocationTranscriptAmountCommitment (side : RgkAllocationTranscriptSide)
    (segmentIndex totalCount segmentAmount : UInt64) (amountBlinding : Bytes32) : Bytes32 :=
  domainHashStr H "rgk:asset:allocation-transcript-amount:v1"
    ([side.asU8] ++ (le64 segmentIndex ++ (le64 totalCount ++ (le64 segmentAmount ++
      amountBlinding.toList))))

def totalCommitmentPayload (side : RgkAllocationTranscriptSide) (totalCount runningTotal : UInt64)
    (blinding : Bytes32) : List UInt8 :=
  [side.asU8] ++ (le64 totalCount ++ (le64 runningTotal ++ blinding.toList))

/-- Blinded commitment to a private running total. -/
def allocationConservationTotalCommitment (side : RgkAllocationTranscriptSide)
    (totalCount runningTotal : UInt64) (blinding : Bytes32) : Bytes32 :=
  domainHashStr H "rgk:asset:allocation-conservation-total:v1"
    (totalCommitmentPayload side totalCount runningTotal blinding)

end Commitments

section Statements

structure AllocationTranscriptSegmentStatement (allocs : ℕ) where
  previousRoot : Bytes32
  nextRoot : Bytes32
  chainId : KaspaChainId
  side : RgkAllocationTranscriptSide
  segmentIndex : UInt64
  totalCount : UInt64
  segmentAmountCommitment : Bytes32
  deriving DecidableEq

def AllocationTranscriptSegmentStatement.publicInputs {allocs : ℕ}
    (s : AllocationTranscriptSegmentStatement allocs) : List UInt8 :=
  s.previousRoot.toList ++ (s.nextRoot.toList ++ (chainIdTaggedLeU32 s.chainId ++ ([s.side.asU8] ++
    (List.replicate 7 0 ++ (le64 s.segmentIndex ++ (le64 s.totalCount ++
      s.segmentAmountCommitment.toList))))))

structure AllocationConservationSegmentStatement (allocs : ℕ) where
  transcript : AllocationTranscriptSegmentStatement allocs
  previousTotalCommitment : Bytes32
  nextTotalCommitment : Bytes32
  deriving DecidableEq

def AllocationConservationSegmentStatement.publicInputs {allocs : ℕ}
    (s : AllocationConservationSegmentStatement allocs) : List UInt8 :=
  s.transcript.publicInputs ++ (s.previousTotalCommitment.toList ++ s.nextTotalCommitment.toList)

structure AllocationConservationFinalStatement where
  spentTotalCount : UInt64
  newTotalCount : UInt64
  spentTotalCommitment : Bytes32
  newTotalCommitment : Bytes32
  deriving DecidableEq

def AllocationConservationFinalStatement.publicInputs (s : AllocationConservationFinalStatement) :
    List UInt8 :=
  le64 s.spentTotalCount ++ (le64 s.newTotalCount ++ (s.spentTotalCommitment.toList ++
    s.newTotalCommitment.toList))

structure AllocationExclusionSegmentPairStatement (spent new : ℕ) where
  spentPreviousRoot : Bytes32
  spentNextRoot : Bytes32
  newPreviousRoot : Bytes32
  newNextRoot : Bytes32
  chainId : KaspaChainId
  spentSegmentIndex : UInt64
  newSegmentIndex : UInt64
  spentTotalCount : UInt64
  newTotalCount : UInt64
  spentAmountCommitment : Bytes32
  newAmountCommitment : Bytes32
  deriving DecidableEq

/-- The statement of a pair of segments, from the statements of both. -/
def pairStatement {spent new : ℕ} (s : AllocationTranscriptSegmentStatement spent)
    (n : AllocationTranscriptSegmentStatement new) :
    AllocationExclusionSegmentPairStatement spent new :=
  ⟨s.previousRoot, s.nextRoot, n.previousRoot, n.nextRoot, s.chainId, s.segmentIndex,
    n.segmentIndex, s.totalCount, n.totalCount, s.segmentAmountCommitment,
    n.segmentAmountCommitment⟩

namespace AllocationExclusionSegmentPairStatement
variable {spent new : ℕ} (s : AllocationExclusionSegmentPairStatement spent new)

def publicInputs : List UInt8 :=
  s.spentPreviousRoot.toList ++ (s.spentNextRoot.toList ++ (s.newPreviousRoot.toList ++
    (s.newNextRoot.toList ++ (chainIdTaggedLeU32 s.chainId ++ (le64 s.spentSegmentIndex ++
      (le64 s.newSegmentIndex ++ (le64 s.spentTotalCount ++ (le64 s.newTotalCount ++
        (s.spentAmountCommitment.toList ++ s.newAmountCommitment.toList)))))))))

/-- The spent half, as the statement of one segment. -/
def spentSegment : AllocationTranscriptSegmentStatement spent :=
  ⟨s.spentPreviousRoot, s.spentNextRoot, s.chainId, .spent, s.spentSegmentIndex, s.spentTotalCount,
    s.spentAmountCommitment⟩

/-- The new half, as the statement of one segment. -/
def newSegment : AllocationTranscriptSegmentStatement new :=
  ⟨s.newPreviousRoot, s.newNextRoot, s.chainId, .new, s.newSegmentIndex, s.newTotalCount,
    s.newAmountCommitment⟩

end AllocationExclusionSegmentPairStatement
end Statements

section Layout

@[simp] lemma length_transcriptInputs {allocs : ℕ}
    (s : AllocationTranscriptSegmentStatement allocs) : s.publicInputs.length = 128 := by
  simp [AllocationTranscriptSegmentStatement.publicInputs]

@[simp] theorem slice_transcriptInputs {allocs : ℕ}
    (s : AllocationTranscriptSegmentStatement allocs) :
    slice s.publicInputs 0 32 = s.previousRoot.toList ∧
    slice s.publicInputs 32 64 = s.nextRoot.toList ∧
    slice s.publicInputs 64 72 = chainIdTaggedLeU32 s.chainId ∧
    slice s.publicInputs 72 73 = [s.side.asU8] ∧
    slice s.publicInputs 73 80 = List.replicate 7 0 ∧
    slice s.publicInputs 80 88 = le64 s.segmentIndex ∧
    slice s.publicInputs 88 96 = le64 s.totalCount ∧
    slice s.publicInputs 96 128 = s.segmentAmountCommitment.toList := by
  simp only [AllocationTranscriptSegmentStatement.publicInputs, List.cons_append, List.nil_append]
  simp [slice_append_right, slice_append_left, slice_full, slice_cons]
  exact ⟨rfl, rfl⟩

@[simp] lemma length_conservationInputs {allocs : ℕ}
    (s : AllocationConservationSegmentStatement allocs) : s.publicInputs.length = 192 := by
  simp [AllocationConservationSegmentStatement.publicInputs]

@[simp] theorem slice_conservationInputs {allocs : ℕ}
    (s : AllocationConservationSegmentStatement allocs) :
    slice s.publicInputs 0 128 = s.transcript.publicInputs ∧
    slice s.publicInputs 128 160 = s.previousTotalCommitment.toList ∧
    slice s.publicInputs 160 192 = s.nextTotalCommitment.toList := by
  simp [AllocationConservationSegmentStatement.publicInputs, slice_append_right,
    slice_append_left, slice_full]

lemma slice_conservation_transcript {allocs lo hi : ℕ}
    (s : AllocationConservationSegmentStatement allocs) (h : hi ≤ 128) :
    slice s.publicInputs lo hi = slice s.transcript.publicInputs lo hi := by
  rw [← (slice_conservationInputs s).1, slice_slice (by omega), Nat.zero_add, Nat.zero_add]

@[simp] lemma byteAt_transcriptInputs {allocs : ℕ}
    (s : AllocationTranscriptSegmentStatement allocs) :
    byteAt s.publicInputs 68 = s.chainId.asU8 ∧ byteAt s.publicInputs 72 = s.side.asU8 := by
  have hs := slice_transcriptInputs s
  have hchain := @byteAt_slice s.publicInputs 64 72 4 (by omega)
  have hside := @byteAt_slice s.publicInputs 72 73 0 (by omega)
  rw [hs.2.2.1] at hchain
  rw [hs.2.2.2.1] at hside
  constructor
  · rw [← hchain]
    cases s.chainId <;> rfl
  · rw [← hside]
    rfl

lemma byteAt_conservationInputs {allocs : ℕ}
    (s : AllocationConservationSegmentStatement allocs) :
    byteAt s.publicInputs 72 = s.transcript.side.asU8 := by
  have hb := @byteAt_slice s.publicInputs 0 128 72 (by omega)
  rw [(slice_conservationInputs s).1, (byteAt_transcriptInputs s.transcript).2] at hb
  exact hb.symm

@[simp] lemma length_finalInputs (s : AllocationConservationFinalStatement) :
    s.publicInputs.length = 80 := by
  simp [AllocationConservationFinalStatement.publicInputs]

@[simp] theorem slice_finalInputs (s : AllocationConservationFinalStatement) :
    slice s.publicInputs 0 8 = le64 s.spentTotalCount ∧
    slice s.publicInputs 8 16 = le64 s.newTotalCount ∧
    slice s.publicInputs 16 48 = s.spentTotalCommitment.toList ∧
    slice s.publicInputs 48 80 = s.newTotalCommitment.toList := by
  simp [AllocationConservationFinalStatement.publicInputs, slice_append_right, slice_append_left,
    slice_full]

@[simp] lemma length_exclusionInputs {spent new : ℕ}
    (s : AllocationExclusionSegmentPairStatement spent new) : s.publicInputs.length = 232 := by
  simp [AllocationExclusionSegmentPairStatement.publicInputs]

@[simp] theorem slice_exclusionInputs {spent new : ℕ}
    (s : AllocationExclusionSegmentPairStatement spent new) :
    slice s.publicInputs 0 32 = s.spentPreviousRoot.toList ∧
    slice s.publicInputs 32 64 = s.spentNextRoot.toList ∧
    slice s.publicInputs 64 96 = s.newPreviousRoot.toList ∧
    slice s.publicInputs 96 128 = s.newNextRoot.toList ∧
    slice s.publicInputs 128 136 = chainIdTaggedLeU32 s.chainId ∧
    slice s.publicInputs 136 144 = le64 s.spentSegmentIndex ∧
    slice s.publicInputs 144 152 = le64 s.newSegmentIndex ∧
    slice s.publicInputs 152 160 = le64 s.spentTotalCount ∧
    slice s.publicInputs 160 168 = le64 s.newTotalCount ∧
    slice s.publicInputs 168 200 = s.spentAmountCommitment.toList ∧
    slice s.publicInputs 200 232 = s.newAmountCommitment.toList := by
  simp [AllocationExclusionSegmentPairStatement.publicInputs, slice_append_right,
    slice_append_left, slice_full]

@[simp] lemma byteAt_exclusionInputs {spent new : ℕ}
    (s : AllocationExclusionSegmentPairStatement spent new) :
    byteAt s.publicInputs 132 = s.chainId.asU8 := by
  have hb := @byteAt_slice s.publicInputs 128 136 4 (by omega)
  rw [(slice_exclusionInputs s).2.2.2.2.1] at hb
  rw [← hb]
  cases s.chainId <;> rfl

end Layout

section Witnesses

/-- The private half of a segment: as many records as its arity, their sum and a blinding. -/
structure AllocationTranscriptSegmentWitness (allocs : ℕ) where
  allocations : List (List UInt8)
  segmentAmount : UInt64
  amountBlinding : Bytes32
  allocations_length : allocations.length = allocs
  deriving DecidableEq

structure AllocationConservationSegmentWitness (allocs : ℕ) where
  transcript : AllocationTranscriptSegmentWitness allocs
  previousTotal : UInt64
  nextTotal : UInt64
  previousTotalBlinding : Bytes32
  nextTotalBlinding : Bytes32
  deriving DecidableEq

structure AllocationConservationFinalWitness where
  total : UInt64
  spentTotalBlinding : Bytes32
  newTotalBlinding : Bytes32
  deriving DecidableEq

structure AllocationExclusionSegmentPairWitness (spent new : ℕ) where
  spent : AllocationTranscriptSegmentWitness spent
  new : AllocationTranscriptSegmentWitness new
  deriving DecidableEq

def allocationWitnessAmount (allocations : List (List UInt8)) : Option UInt64 :=
  allocations.foldlM (fun sum allocation =>
    if 125 ≤ allocation.length then checkedAdd sum (u64OfLe (slice allocation 117 125))
    else none) 0

end Witnesses

section Native
variable (H : List UInt8 → Bytes32)

/-- The segment's amount and root, recomputed from the records. -/
def segmentMatches {allocs : ℕ} (s : AllocationTranscriptSegmentStatement allocs)
    (w : AllocationTranscriptSegmentWitness allocs) : Prop :=
  allocationWitnessAmount w.allocations = some w.segmentAmount ∧
    s.segmentAmountCommitment = allocationTranscriptAmountCommitment H s.side s.segmentIndex
      s.totalCount w.segmentAmount w.amountBlinding ∧
    s.nextRoot = allocationTranscriptSegmentRootFromWitness H s.previousRoot s.side s.segmentIndex
      s.totalCount w.allocations

instance {allocs : ℕ} (s : AllocationTranscriptSegmentStatement allocs)
    (w : AllocationTranscriptSegmentWitness allocs) : Decidable (segmentMatches H s w) := by
  unfold segmentMatches
  infer_instance

def AllocationTranscriptSegmentStatement.matchesWitness {allocs : ℕ}
    (s : AllocationTranscriptSegmentStatement allocs)
    (w : AllocationTranscriptSegmentWitness allocs) : Bool :=
  decide (allocs ≠ 0 ∧
    (∀ a ∈ w.allocations, a.length = allocationWitnessLen) ∧
    (∀ a ∈ w.allocations, byteAt a 0 = s.chainId.asU8) ∧ segmentMatches H s w)

def AllocationConservationSegmentStatement.matchesWitness {allocs : ℕ}
    (s : AllocationConservationSegmentStatement allocs)
    (w : AllocationConservationSegmentWitness allocs) : Bool :=
  decide (w.previousTotalBlinding ≠ Bytes.zero ∧ w.nextTotalBlinding ≠ Bytes.zero ∧
    (s.transcript.segmentIndex = 0 → w.previousTotal = 0) ∧
    s.transcript.matchesWitness H w.transcript = true ∧
    (allocationWitnessAmount w.transcript.allocations).bind (checkedAdd w.previousTotal) =
      some w.nextTotal ∧
    s.previousTotalCommitment = allocationConservationTotalCommitment H s.transcript.side
      s.transcript.totalCount w.previousTotal w.previousTotalBlinding ∧
    s.nextTotalCommitment = allocationConservationTotalCommitment H s.transcript.side
      s.transcript.totalCount w.nextTotal w.nextTotalBlinding)

def AllocationConservationFinalStatement.matchesWitness (s : AllocationConservationFinalStatement)
    (w : AllocationConservationFinalWitness) : Bool :=
  decide (s.spentTotalCount ≠ 0 ∧ s.newTotalCount ≠ 0 ∧ w.total ≠ 0 ∧
    w.spentTotalBlinding ≠ Bytes.zero ∧ w.newTotalBlinding ≠ Bytes.zero ∧
    s.spentTotalCommitment = allocationConservationTotalCommitment H .spent s.spentTotalCount
      w.total w.spentTotalBlinding ∧
    s.newTotalCommitment = allocationConservationTotalCommitment H .new s.newTotalCount
      w.total w.newTotalBlinding)

/-- The comparison takes bytes 1 to 40 here as well. -/
def AllocationExclusionSegmentPairStatement.matchesWitness {spent new : ℕ}
    (s : AllocationExclusionSegmentPairStatement spent new)
    (w : AllocationExclusionSegmentPairWitness spent new) : Bool :=
  decide (spent ≠ 0 ∧ new ≠ 0 ∧
    (∀ a ∈ w.spent.allocations ++ w.new.allocations,
      a.length = allocationWitnessLen ∧ byteAt a 0 = s.chainId.asU8) ∧
    (∀ a ∈ w.spent.allocations, ∀ b ∈ w.new.allocations, slice a 1 41 ≠ slice b 1 41) ∧
    segmentMatches H s.spentSegment w.spent ∧ segmentMatches H s.newSegment w.new)

end Native
end RgkProtocol.AuditStatements
