import RgkProtocol.AuditStatements
import RgkProtocol.AllocationCircuit

/-!
# The circuits of the segmented allocation audit

Synthesis allocates the public input once as field elements and once as bytes and makes the two
agree; the private witness is allocated as bytes.
-/
namespace RgkProtocol.AuditCircuits
open ByteStrings FieldPacking Hashing CoreTypes Checked CircuitGadgets AllocationCircuit
open AuditStatements

/-- The private values of a system: the bytes of the public input and a witness. -/
structure Assigned (ω : Type) where
  publicBytes : List UInt8
  witness : ω

section Digests
variable (H : List UInt8 → Bytes32)

def allocationTranscriptSegmentRootDigest (allocs : ℕ) (previousRoot : List UInt8) (side : UInt8)
    (segmentIndex totalCount : List UInt8) (allocations : List (List UInt8)) :
    Except SynthesisError (List UInt8) := do
  failIf (previousRoot.length ≠ 32 ∨ segmentIndex.length ≠ 8 ∨ totalCount.length ≠ 8 ∨
    allocations.length ≠ allocs) .unsatisfiable
  .ok (domainHashDigest H "rgk:asset:allocation-transcript-segment-root:v1"
    (previousRoot ++ ([side] ++ (segmentIndex ++ (totalCount ++ (le64 (UInt64.ofNat allocs) ++
      allocations.flatten))))))

def allocationTranscriptAmountCommitmentDigest (side : UInt8)
    (segmentIndex totalCount segmentAmount amountBlinding : List UInt8) :
    Except SynthesisError (List UInt8) := do
  failIf (segmentIndex.length ≠ 8 ∨ totalCount.length ≠ 8 ∨ segmentAmount.length ≠ 8 ∨
    amountBlinding.length ≠ 32) .unsatisfiable
  .ok (domainHashDigest H "rgk:asset:allocation-transcript-amount:v1"
    ([side] ++ (segmentIndex ++ (totalCount ++ (segmentAmount ++ amountBlinding)))))

def allocationConservationTotalCommitmentDigest (side : UInt8)
    (totalCount runningTotal blinding : List UInt8) : Except SynthesisError (List UInt8) := do
  failIf (totalCount.length ≠ 8 ∨ runningTotal.length ≠ 8 ∨ blinding.length ≠ 32) .unsatisfiable
  .ok (domainHashDigest H "rgk:asset:allocation-conservation-total:v1"
    ([side] ++ (totalCount ++ (runningTotal ++ blinding))))

end Digests

section Layouts

def enforceAllocationTranscriptSegmentPublicLayout (l : List UInt8) : Prop :=
  enforceNonzeroBytes (slice l 0 32) ∧
    enforceNonzeroBytes (slice l 32 64) ∧
    slice l 0 32 ≠ slice l 32 64 ∧
    enforceChainIdLayout (slice l 64 72) ∧
    byteAt l 72 ∈ [(0 : UInt8), 1] ∧
    (∀ b ∈ slice l 73 80, b = 0) ∧
    enforceNonzeroBytes (slice l 88 96) ∧
    enforceNonzeroBytes (slice l 96 128)

instance : DecidablePred enforceAllocationTranscriptSegmentPublicLayout := fun l => by
  unfold enforceAllocationTranscriptSegmentPublicLayout
  haveI : Decidable (∀ b ∈ slice l 73 80, b = 0) := List.decidableBAll (fun b => b = 0) _
  infer_instance

def enforceAllocationConservationSegmentPublicLayout (l : List UInt8) : Prop :=
  enforceAllocationTranscriptSegmentPublicLayout (slice l 0 128) ∧
    enforceNonzeroBytes (slice l 128 160) ∧
    enforceNonzeroBytes (slice l 160 192)

instance : DecidablePred enforceAllocationConservationSegmentPublicLayout := fun l => by
  unfold enforceAllocationConservationSegmentPublicLayout
  infer_instance

def enforceAllocationConservationFinalPublicLayout (l : List UInt8) : Prop :=
  enforceNonzeroBytes (slice l 0 8) ∧
    enforceNonzeroBytes (slice l 8 16) ∧
    enforceNonzeroBytes (slice l 16 48) ∧
    enforceNonzeroBytes (slice l 48 80)

instance : DecidablePred enforceAllocationConservationFinalPublicLayout := fun l => by
  unfold enforceAllocationConservationFinalPublicLayout
  infer_instance

def enforceAllocationExclusionSegmentPairPublicLayout (l : List UInt8) : Prop :=
  enforceNonzeroBytes (slice l 0 32) ∧
    enforceNonzeroBytes (slice l 32 64) ∧
    enforceNonzeroBytes (slice l 64 96) ∧
    enforceNonzeroBytes (slice l 96 128) ∧
    slice l 0 32 ≠ slice l 32 64 ∧
    slice l 64 96 ≠ slice l 96 128 ∧
    enforceChainIdLayout (slice l 128 136) ∧
    enforceNonzeroBytes (slice l 152 160) ∧
    enforceNonzeroBytes (slice l 160 168) ∧
    enforceNonzeroBytes (slice l 168 200) ∧
    enforceNonzeroBytes (slice l 200 232)

instance : DecidablePred enforceAllocationExclusionSegmentPairPublicLayout := fun l => by
  unfold enforceAllocationExclusionSegmentPairPublicLayout
  infer_instance

end Layouts

section Constraints
variable (H : List UInt8 → Bytes32)

def enforceAllocationTranscriptSegment (allocs : ℕ)
    (pub segmentAmount amountBlinding : List UInt8) (allocations : List (List UInt8)) :
    Except SynthesisError Bool := do
  failIf (pub.length ≠ 128 ∨ allocations.length ≠ allocs) .unsatisfiable
  failIf (segmentAmount.length ≠ 8 ∨ amountBlinding.length ≠ 32) .unsatisfiable
  validateNonemptyAllocationSlices allocations
  let amountCommitment ← allocationTranscriptAmountCommitmentDigest H (byteAt pub 72)
    (slice pub 80 88) (slice pub 88 96) segmentAmount amountBlinding
  let computedNextRoot ← allocationTranscriptSegmentRootDigest H allocs (slice pub 0 32)
    (byteAt pub 72) (slice pub 80 88) (slice pub 88 96) allocations
  .ok (decide (enforceNonzeroBytes segmentAmount ∧ enforceNonzeroBytes amountBlinding ∧
    (∀ a ∈ allocations, enforceAllocationCommonForChain (byteAt pub 68) a) ∧
    enforceDistinctOutpoints allocations ∧
    sumAllocationAmounts allocations = leBytesAsFr segmentAmount ∧
    amountCommitment = slice pub 96 128 ∧ computedNextRoot = slice pub 32 64))

/-- In the first segment every byte of the previous total is zero. -/
def enforceInitialConservationTotalZeroForFirstSegment (segmentIndex previousTotal : List UInt8) :
    Prop :=
  ∀ b ∈ previousTotal, segmentIndex ≠ List.replicate 8 0 ∨ b = 0

instance (segmentIndex previousTotal : List UInt8) :
    Decidable (enforceInitialConservationTotalZeroForFirstSegment segmentIndex previousTotal) :=
  List.decidableBAll (fun b => segmentIndex ≠ List.replicate 8 0 ∨ b = 0) previousTotal

def enforceAllocationConservationSegment (allocs : ℕ) (pub segmentAmount amountBlinding
    previousTotal nextTotal previousTotalBlinding nextTotalBlinding : List UInt8)
    (allocations : List (List UInt8)) : Except SynthesisError Bool := do
  failIf (pub.length ≠ 192 ∨ previousTotal.length ≠ 8 ∨ nextTotal.length ≠ 8 ∨
    previousTotalBlinding.length ≠ 32 ∨ nextTotalBlinding.length ≠ 32) .unsatisfiable
  let transcript ← enforceAllocationTranscriptSegment H allocs (slice pub 0 128) segmentAmount
    amountBlinding allocations
  let previousTotalCommitment ← allocationConservationTotalCommitmentDigest H (byteAt pub 72)
    (slice pub 88 96) previousTotal previousTotalBlinding
  let nextTotalCommitment ← allocationConservationTotalCommitmentDigest H (byteAt pub 72)
    (slice pub 88 96) nextTotal nextTotalBlinding
  .ok (decide (transcript = true ∧ enforceNonzeroBytes previousTotalBlinding ∧
    enforceNonzeroBytes nextTotalBlinding ∧
    leBytesAsFr previousTotal + leBytesAsFr segmentAmount = leBytesAsFr nextTotal ∧
    enforceInitialConservationTotalZeroForFirstSegment (slice pub 80 88) previousTotal ∧
    previousTotalCommitment = slice pub 128 160 ∧ nextTotalCommitment = slice pub 160 192))

def enforceAllocationConservationFinal
    (pub total spentTotalBlinding newTotalBlinding : List UInt8) : Except SynthesisError Bool := do
  failIf (pub.length ≠ 80 ∨ total.length ≠ 8 ∨ spentTotalBlinding.length ≠ 32 ∨
    newTotalBlinding.length ≠ 32) .unsatisfiable
  let spentTotalCommitment ← allocationConservationTotalCommitmentDigest H
    RgkAllocationTranscriptSide.spent.asU8 (slice pub 0 8) total spentTotalBlinding
  let newTotalCommitment ← allocationConservationTotalCommitmentDigest H
    RgkAllocationTranscriptSide.new.asU8 (slice pub 8 16) total newTotalBlinding
  .ok (decide (enforceNonzeroBytes total ∧ enforceNonzeroBytes spentTotalBlinding ∧
    enforceNonzeroBytes newTotalBlinding ∧ spentTotalCommitment = slice pub 16 48 ∧
    newTotalCommitment = slice pub 48 80))

def enforceAllocationExclusionSegmentPair (spentAllocs newAllocs : ℕ)
    (pub spentAmount spentBlinding newAmount newBlinding : List UInt8)
    (spent new : List (List UInt8)) : Except SynthesisError Bool := do
  failIf (pub.length ≠ 232 ∨ spent.length ≠ spentAllocs ∨ new.length ≠ newAllocs ∨
    spentAmount.length ≠ 8 ∨ newAmount.length ≠ 8 ∨ spentBlinding.length ≠ 32 ∨
    newBlinding.length ≠ 32) .unsatisfiable
  validateNonemptyAllocationSlices spent
  validateNonemptyAllocationSlices new
  let spentAmountCommitment ← allocationTranscriptAmountCommitmentDigest H
    RgkAllocationTranscriptSide.spent.asU8 (slice pub 136 144) (slice pub 152 160) spentAmount
    spentBlinding
  let newAmountCommitment ← allocationTranscriptAmountCommitmentDigest H
    RgkAllocationTranscriptSide.new.asU8 (slice pub 144 152) (slice pub 160 168) newAmount
    newBlinding
  let spentNextRoot ← allocationTranscriptSegmentRootDigest H spentAllocs (slice pub 0 32)
    RgkAllocationTranscriptSide.spent.asU8 (slice pub 136 144) (slice pub 152 160) spent
  let newNextRoot ← allocationTranscriptSegmentRootDigest H newAllocs (slice pub 64 96)
    RgkAllocationTranscriptSide.new.asU8 (slice pub 144 152) (slice pub 160 168) new
  .ok (decide (enforceNonzeroBytes spentAmount ∧ enforceNonzeroBytes newAmount ∧
    enforceNonzeroBytes spentBlinding ∧ enforceNonzeroBytes newBlinding ∧
    (∀ a ∈ spent, enforceAllocationCommonForChain (byteAt pub 132) a) ∧
    (∀ a ∈ new, enforceAllocationCommonForChain (byteAt pub 132) a) ∧
    enforceDistinctOutpoints spent ∧ enforceDistinctOutpoints new ∧
    enforceSpentAnchorsNotReused spent new ∧
    sumAllocationAmounts spent = leBytesAsFr spentAmount ∧
    sumAllocationAmounts new = leBytesAsFr newAmount ∧
    spentAmountCommitment = slice pub 168 200 ∧ newAmountCommitment = slice pub 200 232 ∧
    spentNextRoot = slice pub 32 64 ∧ newNextRoot = slice pub 96 128))

end Constraints

section Synthesis
variable (H : List UInt8 → Bytes32)

/-- The frame of all four circuits: refuse malformed input, tie the public bytes to the public
field elements, and constrain layout and body. -/
def synthesize (refused : Prop) [Decidable refused] (publicInputs publicBytes : List UInt8)
    (layout : List UInt8 → Prop) [DecidablePred layout]
    (body : List UInt8 → Except SynthesisError Bool) : Except SynthesisError Bool := do
  failIf refused .unsatisfiable
  let constraints ← body publicBytes
  .ok (decide (enforceFrsEqual (digestBytesAsFrs publicBytes) (publicInputsAsVars publicInputs) ∧
    layout publicBytes ∧ constraints = true))

def AllocationTranscriptSegmentCircuit.generateConstraints {allocs : ℕ} (publicInputs : List UInt8)
    (a : Assigned (AllocationTranscriptSegmentWitness allocs)) : Except SynthesisError Bool :=
  synthesize (allocs = 0 ∨ publicInputs.length ≠ 128 ∨
      ∃ x ∈ a.witness.allocations, x.length ≠ allocationWitnessLen)
    publicInputs a.publicBytes enforceAllocationTranscriptSegmentPublicLayout
    (fun pub => enforceAllocationTranscriptSegment H allocs pub (le64 a.witness.segmentAmount)
      a.witness.amountBlinding.toList a.witness.allocations)

def AllocationConservationSegmentCircuit.generateConstraints {allocs : ℕ}
    (publicInputs : List UInt8) (a : Assigned (AllocationConservationSegmentWitness allocs)) :
    Except SynthesisError Bool :=
  synthesize (allocs = 0 ∨ publicInputs.length ≠ 192 ∨
      ∃ x ∈ a.witness.transcript.allocations, x.length ≠ allocationWitnessLen)
    publicInputs a.publicBytes enforceAllocationConservationSegmentPublicLayout
    (fun pub => enforceAllocationConservationSegment H allocs pub
      (le64 a.witness.transcript.segmentAmount) a.witness.transcript.amountBlinding.toList
      (le64 a.witness.previousTotal) (le64 a.witness.nextTotal)
      a.witness.previousTotalBlinding.toList a.witness.nextTotalBlinding.toList
      a.witness.transcript.allocations)

def AllocationConservationFinalCircuit.generateConstraints (publicInputs : List UInt8)
    (a : Assigned AllocationConservationFinalWitness) : Except SynthesisError Bool :=
  synthesize (publicInputs.length ≠ 80) publicInputs a.publicBytes
    enforceAllocationConservationFinalPublicLayout
    (fun pub => enforceAllocationConservationFinal H pub (le64 a.witness.total)
      a.witness.spentTotalBlinding.toList a.witness.newTotalBlinding.toList)

def AllocationExclusionSegmentPairCircuit.generateConstraints {spent new : ℕ}
    (publicInputs : List UInt8) (a : Assigned (AllocationExclusionSegmentPairWitness spent new)) :
    Except SynthesisError Bool :=
  synthesize (spent = 0 ∨ new = 0 ∨ publicInputs.length ≠ 232 ∨
      (∃ x ∈ a.witness.spent.allocations, x.length ≠ allocationWitnessLen) ∨
      ∃ x ∈ a.witness.new.allocations, x.length ≠ allocationWitnessLen)
    publicInputs a.publicBytes enforceAllocationExclusionSegmentPairPublicLayout
    (fun pub => enforceAllocationExclusionSegmentPair H spent new pub
      (le64 a.witness.spent.segmentAmount) a.witness.spent.amountBlinding.toList
      (le64 a.witness.new.segmentAmount) a.witness.new.amountBlinding.toList
      a.witness.spent.allocations a.witness.new.allocations)

end Synthesis
end RgkProtocol.AuditCircuits
