import RgkProtocol.CircuitGadgets

/-!
# The fixed-shape allocation circuits

Synthesis reads its own public input once, for the burn it writes into the digests as
constants; everything else constrains the values of an assignment. A system is therefore given
by the statement it was generated from, and asked about assignments for other statements.
-/
namespace RgkProtocol.AllocationCircuit
open ByteStrings FieldPacking Hashing CoreTypes Checked AssetTypes SemanticStatement CircuitGadgets

section Burn

structure BurnDigestEncoding where
  amount : Bytes 8
  authorizationCommitment : Bytes32
  deriving DecidableEq

def semanticPublicInputLen : ℕ := 512

def burnDigestEncoding (publicInputs : List UInt8) :
    Except SynthesisError (Option BurnDigestEncoding) := do
  failIf (publicInputs.length ≠ semanticPublicInputLen) .unsatisfiable
  let amount : Bytes 8 := bytesAt 8 publicInputs 472
  let authorizationCommitment : Bytes32 := bytesAt 32 publicInputs 480
  match amount.isZero, authorizationCommitment.isZero with
  | true, true => .ok none
  | true, false => .error .unsatisfiable
  | false, true => .error .unsatisfiable
  | false, false => .ok (some ⟨amount, authorizationCommitment⟩)

def encodeBurnDigest : Option BurnDigestEncoding → List UInt8
  | none => [0]
  | some burn => 1 :: (burn.amount.toList ++ burn.authorizationCommitment.toList)

end Burn

section Digests
variable (H : List UInt8 → Bytes32)

def allocationRootDigest (allocations : List (List UInt8)) : List UInt8 :=
  domainHashDigest H "rgk:asset:allocation-root:v1"
    (le32 (UInt32.ofNat allocations.length) ++ allocations.flatten)

def stateDigest (statement allocationRoot ownerCommitment : List UInt8) : List UInt8 :=
  domainHashDigest H "rgk:asset:state:v2"
    (slice statement 40 72 ++ (slice statement 424 432 ++ (allocationRoot ++
      (slice statement 264 296 ++ (slice statement 296 328 ++ (ownerCommitment ++
        ([byteAt statement 448] ++ slice statement 232 264)))))))

/-- The part of a new allocation that the continuation commits to. -/
def shapeBytes (allocation : List UInt8) : List UInt8 :=
  slice allocation 33 37 ++ (slice allocation 37 69 ++ (slice allocation 117 125 ++
    slice allocation 125 157))

def continuationShapeRootDigest (statement : List UInt8) (new : List (List UInt8)) : List UInt8 :=
  domainHashDigest H "rgk:continuation:shape-root:v1"
    ([byteAt statement 4] ++ (le32 (UInt32.ofNat new.length) ++ new.flatMap shapeBytes))

/-- Lane, privacy, policy, metadata and ownership, as both digests below end with them. -/
def governanceBytes (statement : List UInt8) : List UInt8 :=
  slice statement 232 264 ++ ([byteAt statement 448] ++ (slice statement 264 296 ++
    (slice statement 296 328 ++ (slice statement 328 360 ++ (slice statement 360 392 ++
      slice statement 392 424)))))

def continuationCommitmentDigest (statement spentRoot shapeRoot : List UInt8)
    (burn : Option BurnDigestEncoding) : List UInt8 :=
  domainHashDigest H "rgk:continuation:phase1:v2"
    ([byteAt statement 4] ++ (slice statement 8 40 ++ (slice statement 40 72 ++
      (slice statement 424 432 ++ (slice statement 72 104 ++ (spentRoot ++ (shapeRoot ++
        (encodeBurnDigest burn ++ governanceBytes statement))))))))

/-- Allocations in witness order, each behind a direction tag. -/
def taggedRecords (tag : UInt8) (allocations : List (List UInt8)) : List UInt8 :=
  le32 (UInt32.ofNat allocations.length) ++ allocations.flatMap (fun a => tag :: a)

def transitionDigest (statement : List UInt8) (spent new : List (List UInt8))
    (burn : Option BurnDigestEncoding) (witnessTxid : List UInt8) : List UInt8 :=
  domainHashDigest H "rgk:asset:transition:v2"
    ([byteAt statement 4] ++ (slice statement 8 40 ++ (slice statement 40 72 ++
      (slice statement 424 432 ++ (slice statement 72 104 ++ (slice statement 104 136 ++
        (witnessTxid ++ (encodeBurnDigest burn ++ (governanceBytes statement ++
          (taggedRecords 0x69 spent ++ taggedRecords 0x6f new))))))))))

/-- The transaction id that a transition digest binds: that of the first new allocation, or the
explicit one of a terminal burn. -/
def transitionWitnessTxid (new : List (List UInt8)) (terminalWitnessTxid : Option (List UInt8)) :
    Except SynthesisError (List UInt8) :=
  match new, terminalWitnessTxid with
  | first :: _, none => .ok (slice first 69 101)
  | [], some txid => do
      failIf (txid.length ≠ 32) .unsatisfiable
      .ok txid
  | _, _ => .error .unsatisfiable

end Digests

section Layout

def enforceSemanticLayout (statement : List UInt8) : Prop :=
  enforceChainIdLayout (slice statement 0 8) ∧
    enforceNonzeroBytes (slice statement 8 40) ∧
    enforceNonzeroBytes (slice statement 40 72) ∧
    enforceNonzeroBytes (slice statement 72 104) ∧
    enforceNonzeroBytes (slice statement 104 136) ∧
    slice statement 72 104 ≠ slice statement 104 136 ∧
    enforceNonzeroBytes (slice statement 136 168) ∧
    enforceNonzeroBytes (slice statement 168 200) ∧
    enforceNonzeroBytes (slice statement 200 232) ∧
    enforceNonzeroBytes (slice statement 232 264) ∧
    enforceNonzeroBytes (slice statement 264 296) ∧
    enforceNonzeroBytes (slice statement 296 328) ∧
    enforceNonzeroBytes (slice statement 328 360) ∧
    enforceNonzeroBytes (slice statement 360 392) ∧
    (slice statement 328 360 = slice statement 360 392 ∨
      enforceNonzeroBytes (slice statement 392 424)) ∧
    enforceNonzeroBytes (slice statement 424 432) ∧
    enforceNonzeroBytes (slice statement 432 440) ∧
    byteAt statement 448 ∈ [0, 1, 2] ∧
    (∀ i ∈ [449, 450, 451, 452, 453, 454, 455], byteAt statement i = 0) ∧
    enforceNonzeroBytes (slice statement 456 464) ∧
    leBytesAsFr (slice statement 464 472) + leBytesAsFr (slice statement 472 480) =
      leBytesAsFr (slice statement 456 464) ∧
    (enforceNonzeroBytes (slice statement 440 448) ∨
      enforceNonzeroBytes (slice statement 472 480)) ∧
    (enforceNonzeroBytes (slice statement 464 472) ∨
      enforceNonzeroBytes (slice statement 472 480))

instance (statement : List UInt8) : Decidable (enforceSemanticLayout statement) := by
  unfold enforceSemanticLayout
  infer_instance

end Layout

section Transition
variable (H : List UInt8 → Bytes32)

def validateNonemptyAllocationSlices (allocations : List (List UInt8)) :
    Except SynthesisError Unit := do
  failIf (allocations = []) .unsatisfiable
  failIf (∃ a ∈ allocations, a.length ≠ allocationWitnessLen) .unsatisfiable

def enforceAllocationSupplyDelta (statement : List UInt8) (spent new : List (List UInt8)) : Prop :=
  sumAllocationAmounts spent = leBytesAsFr (slice statement 456 464) ∧
    sumAllocationAmounts new = leBytesAsFr (slice statement 464 472) ∧
    sumAllocationAmounts spent =
      sumAllocationAmounts new + leBytesAsFr (slice statement 472 480)

instance (statement : List UInt8) (spent new : List (List UInt8)) :
    Decidable (enforceAllocationSupplyDelta statement spent new) := by
  unfold enforceAllocationSupplyDelta
  infer_instance

/-- The checks on the shape of the call, before any constraint. -/
def checkTransitionShape (statement : List UInt8) (spent new : List (List UInt8))
    (burn : Option BurnDigestEncoding) (terminalWitnessTxid : Option (List UInt8)) :
    Except SynthesisError Unit := do
  failIf (statement.length ≠ semanticPublicInputLen) .unsatisfiable
  validateNonemptyAllocationSlices spent
  if new = [] then
    let witnessTxid ← okOr terminalWitnessTxid .unsatisfiable
    failIf (witnessTxid.length ≠ 32 ∨ burn = none) .unsatisfiable
  else
    validateNonemptyAllocationSlices new
    failIf (terminalWitnessTxid.isSome = true) .unsatisfiable

/-- The constraints of a transition whose digests bind `witnessTxid`. -/
def transitionConstraints (statement : List UInt8) (spent new : List (List UInt8))
    (burn : Option BurnDigestEncoding) (witnessTxid : List UInt8) : Prop :=
  (new = [] → enforceNonzeroBytes witnessTxid) ∧
    slice statement 432 440 = le64 (UInt64.ofNat spent.length) ∧
    slice statement 440 448 = le64 (UInt64.ofNat new.length) ∧
    (∀ a ∈ spent, enforceAllocationCommonForChain (byteAt statement 4) a) ∧
    (∀ a ∈ new, enforceAllocationCommonForChain (byteAt statement 4) a ∧
      slice a 1 33 = slice a 69 101) ∧
    enforceDistinctOutpoints spent ∧
    enforceDistinctOutpoints new ∧
    enforceSpentAnchorsNotReused spent new ∧
    enforceAllocationSupplyDelta statement spent new ∧
    stateDigest H statement (allocationRootDigest H spent) (slice statement 328 360) =
      slice statement 72 104 ∧
    stateDigest H statement (allocationRootDigest H new) (slice statement 360 392) =
      slice statement 104 136 ∧
    continuationShapeRootDigest H statement new = slice statement 200 232 ∧
    continuationCommitmentDigest H statement (allocationRootDigest H spent)
      (continuationShapeRootDigest H statement new) burn = slice statement 168 200 ∧
    (∀ a ∈ new, slice a 69 101 = witnessTxid) ∧
    transitionDigest H statement spent new burn witnessTxid = slice statement 136 168

instance (statement : List UInt8) (spent new : List (List UInt8))
    (burn : Option BurnDigestEncoding) (witnessTxid : List UInt8) :
    Decidable (transitionConstraints H statement spent new burn witnessTxid) := by
  unfold transitionConstraints
  infer_instance

def enforceAllocationTransition (statement : List UInt8) (spent new : List (List UInt8))
    (burn : Option BurnDigestEncoding) (terminalWitnessTxid : Option (List UInt8)) :
    Except SynthesisError Bool := do
  checkTransitionShape statement spent new burn terminalWitnessTxid
  let witnessTxid ← transitionWitnessTxid new terminalWitnessTxid
  .ok (decide (transitionConstraints H statement spent new burn witnessTxid))

end Transition

/-- The values of a system's variables: public field elements, and bytes for the statement, the
allocation records and, for a terminal burn, the transaction id. -/
structure AllocationAssignment (shape : RgkAllocationProofShape) where
  publicFrs : List Fr
  statement : List UInt8
  spent : List (List UInt8)
  new : List (List UInt8)
  terminalWitnessTxid : Option (List UInt8)
  spent_length : spent.length = shape.spentCount
  new_length : new.length = shape.newCount
  terminal_isSome : terminalWitnessTxid.isSome = decide (shape = .oneInZeroOut)

section Synthesis
variable (H : List UInt8 → Bytes32) {shape : RgkAllocationProofShape}

/-- The body shared by the circuits with new allocations. -/
def vectorConstraints (publicInputs : List UInt8) (w : AllocationAssignment shape) :
    Except SynthesisError Bool := do
  failIf (publicInputs.length ≠ semanticPublicInputLen ∨
    w.statement.length ≠ semanticPublicInputLen ∨
    (∃ a ∈ w.spent, a.length ≠ allocationWitnessLen) ∨
    ∃ a ∈ w.new, a.length ≠ allocationWitnessLen) .unsatisfiable
  let burn ← burnDigestEncoding publicInputs
  let transition ← enforceAllocationTransition H w.statement w.spent w.new burn none
  .ok (decide (enforceFrsEqual (digestBytesAsFrs w.statement) w.publicFrs ∧
    enforceSemanticLayout w.statement ∧ transition = true))

def OneInOneOutAllocationCircuit.generateConstraints (publicInputs : List UInt8)
    (w : AllocationAssignment .oneInOneOut) : Except SynthesisError Bool :=
  vectorConstraints H publicInputs w

def TwoInTwoOutAllocationCircuit.generateConstraints (publicInputs : List UInt8)
    (w : AllocationAssignment .twoInTwoOut) : Except SynthesisError Bool :=
  vectorConstraints H publicInputs w

def FixedAllocationVectorCircuit.generateConstraints (publicInputs : List UInt8)
    (w : AllocationAssignment shape) : Except SynthesisError Bool := do
  failIf (shape.spentCount = 0 ∨ shape.newCount = 0) .unsatisfiable
  vectorConstraints H publicInputs w

def OneInZeroOutAllocationCircuit.generateConstraints (publicInputs : List UInt8)
    (w : AllocationAssignment .oneInZeroOut) : Except SynthesisError Bool := do
  failIf (publicInputs.length ≠ semanticPublicInputLen ∨
    w.statement.length ≠ semanticPublicInputLen ∨
    ∃ a ∈ w.spent, a.length ≠ allocationWitnessLen) .unsatisfiable
  let burn ← burnDigestEncoding publicInputs
  failIf (burn = none) .unsatisfiable
  let witnessTxid ← okOr w.terminalWitnessTxid .unsatisfiable
  let transition ← enforceAllocationTransition H w.statement w.spent w.new burn (some witnessTxid)
  .ok (decide (enforceFrsEqual (digestBytesAsFrs w.statement) w.publicFrs ∧
    enforceSemanticLayout w.statement ∧ enforceNonzeroBytes witnessTxid ∧ transition = true))

/-- The system of a supported shape generated from `publicInputs`, at an assignment. -/
def SupportedAllocationVectorCircuit.generateConstraints (publicInputs : List UInt8) :
    {shape : RgkAllocationProofShape} → AllocationAssignment shape → Except SynthesisError Bool
  | .oneInZeroOut, w => OneInZeroOutAllocationCircuit.generateConstraints H publicInputs w
  | .oneInOneOut, w => OneInOneOutAllocationCircuit.generateConstraints H publicInputs w
  | .twoInTwoOut, w => TwoInTwoOutAllocationCircuit.generateConstraints H publicInputs w
  | .threeInTwoOut, w => FixedAllocationVectorCircuit.generateConstraints H publicInputs w
  | .fourInTwoOut, w => FixedAllocationVectorCircuit.generateConstraints H publicInputs w
  | .fourInFourOut, w => FixedAllocationVectorCircuit.generateConstraints H publicInputs w

end Synthesis
end RgkProtocol.AllocationCircuit
