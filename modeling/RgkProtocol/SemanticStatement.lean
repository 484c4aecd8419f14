import RgkProtocol.CanonicalEncoding
import RgkProtocol.ContinuationPlan

/-!
# The semantic transition statement

The 512-byte public statement of the allocation circuits, built from the two native reports.
The byte layout determines the typed statement, and each field sits at a fixed offset.
-/
namespace RgkProtocol.SemanticStatement
open ByteStrings Hashing CoreTypes Checked AssetTypes AssetEncoding AssetValidation

inductive ZkTag where
  | groth16
  | r0Succinct
  deriving DecidableEq

def ZkTag.asByte : ZkTag → UInt8
  | .groth16 => 0x20
  | .r0Succinct => 0x21

inductive ZkError where
  | missingProof
  | proofTooLong (got max : ℕ)
  | publicInputTooLong (got max : ℕ)
  | semanticCountTooLarge (field : String) (count : ℕ)
  | semanticTransitionMismatch (field : String)
  | semanticTransitionInvalid (field : String)
  | unsupportedTag (tag : ZkTag)
  | statementMismatch
  | wrongMode (mode : ProofMode)
  deriving DecidableEq

structure SemanticTransitionStatement where
  chainId : KaspaChainId
  schemaId : Bytes32
  assetId : Bytes32
  previousStateDigest : Bytes32
  newStateDigest : Bytes32
  transitionDigest : Bytes32
  continuationCommitment : Bytes32
  continuationShapeRoot : Bytes32
  laneId : Bytes32
  privacyPolicy : LanePrivacyPolicy
  policyCommitment : Bytes32
  metadataCommitment : Bytes32
  previousOwnerCommitment : Bytes32
  newOwnerCommitment : Bytes32
  ownershipAuthorizationCommitment : Bytes32
  totalSupply : UInt64
  spentAllocationCount : UInt64
  newAllocationCount : UInt64
  spentSupply : UInt64
  newSupply : UInt64
  burnedSupply : UInt64
  burnAuthorizationCommitment : Bytes32
  deriving DecidableEq

section Construction

def rejectZeroSemantic (bytes : Bytes32) (field : String) : Except ZkError Unit :=
  failIf (bytes.isZero = true) (.semanticTransitionInvalid field)

lemma rejectZeroSemantic_eq_ok {b : Bytes32} {field : String} :
    rejectZeroSemantic b field = .ok () ↔ b ≠ Bytes.zero := by
  rw [rejectZeroSemantic, failIf_eq_ok, Bytes.isZero_iff]

def SemanticTransitionStatement.validate (s : SemanticTransitionStatement) :
    Except ZkError Unit := do
  rejectZeroSemantic s.schemaId "schema_id"
  rejectZeroSemantic s.assetId "asset_id"
  rejectZeroSemantic s.previousStateDigest "previous_state_digest"
  rejectZeroSemantic s.newStateDigest "new_state_digest"
  rejectZeroSemantic s.transitionDigest "transition_digest"
  rejectZeroSemantic s.continuationCommitment "continuation_commitment"
  rejectZeroSemantic s.continuationShapeRoot "continuation_shape_root"
  rejectZeroSemantic s.laneId "lane_id"
  rejectZeroSemantic s.policyCommitment "policy_commitment"
  rejectZeroSemantic s.metadataCommitment "metadata_commitment"
  rejectZeroSemantic s.previousOwnerCommitment "previous_owner_commitment"
  rejectZeroSemantic s.newOwnerCommitment "new_owner_commitment"
  failIf (s.previousOwnerCommitment ≠ s.newOwnerCommitment ∧
      s.ownershipAuthorizationCommitment.isZero = true)
    (.semanticTransitionInvalid "ownership_authorization_commitment")
  failIf (s.previousStateDigest = s.newStateDigest)
    (.semanticTransitionInvalid "no-op state digest")
  failIf (s.totalSupply = 0) (.semanticTransitionInvalid "total_supply")
  failIf (s.spentAllocationCount = 0) (.semanticTransitionInvalid "spent_allocation_count")
  failIf (s.spentSupply = 0) (.semanticTransitionInvalid "spent_supply")
  failIf (s.spentSupply > s.totalSupply ∨ s.newSupply > s.totalSupply)
    (.semanticTransitionInvalid "supply exceeds total_supply")
  let accountedSupply ← okOr (checkedAdd s.newSupply s.burnedSupply)
    (.semanticTransitionInvalid "supply overflow")
  failIf (accountedSupply ≠ s.spentSupply)
    (.semanticTransitionInvalid "spent_supply != new_supply + burned_supply")
  failIf (s.newAllocationCount = 0 ∧ s.burnedSupply = 0)
    (.semanticTransitionInvalid "new_allocation_count")
  failIf (s.newSupply = 0 ∧ s.burnedSupply = 0) (.semanticTransitionInvalid "new_supply")
  if s.burnedSupply = 0 then
    failIf (s.burnAuthorizationCommitment.isZero = false)
      (.semanticTransitionInvalid "unexpected burn_authorization_commitment")
  else
    failIf (s.burnAuthorizationCommitment.isZero = true)
      (.semanticTransitionInvalid "burn_authorization_commitment")

def countAsU64 (field : String) (count : ℕ) : Except ZkError UInt64 := do
  failIf (2^64 ≤ count) (.semanticCountTooLarge field count)
  .ok (UInt64.ofNat count)

lemma countAsU64_of_lt (field : String) {n : ℕ} (h : n < 2^64) :
    countAsU64 field n = .ok (UInt64.ofNat n) :=
  unit_bind_eq_ok.mpr ⟨failIf_eq_ok.mpr (not_le.mpr h), rfl⟩

/-- The statement of two reports that agree. -/
def ofReports (transition : RgkTransitionReport) (continuation : RgkContinuationReport)
    (spentAllocationCount newAllocationCount : UInt64) : SemanticTransitionStatement :=
  { chainId := transition.chain, schemaId := transition.schemaId, assetId := transition.assetId,
    previousStateDigest := transition.previousStateDigest,
    newStateDigest := transition.newStateDigest, transitionDigest := transition.transitionDigest,
    continuationCommitment := continuation.commitment,
    continuationShapeRoot := continuation.shapeRoot, laneId := transition.laneId,
    privacyPolicy := transition.privacyPolicy, policyCommitment := transition.policyCommitment,
    metadataCommitment := transition.metadataCommitment,
    previousOwnerCommitment := transition.previousOwnerCommitment,
    newOwnerCommitment := transition.newOwnerCommitment,
    ownershipAuthorizationCommitment := transition.ownershipAuthorizationCommitment,
    totalSupply := transition.totalSupply, spentAllocationCount := spentAllocationCount,
    newAllocationCount := newAllocationCount, spentSupply := transition.spentSupply,
    newSupply := transition.newSupply, burnedSupply := transition.burnedSupply,
    burnAuthorizationCommitment := transition.burnAuthorizationCommitment }

def SemanticTransitionStatement.fromReports (transition : RgkTransitionReport)
    (continuation : RgkContinuationReport) : Except ZkError SemanticTransitionStatement := do
  failIf (transition.chain ≠ continuation.chain) (.semanticTransitionMismatch "chain_id")
  failIf (transition.schemaId ≠ continuation.schemaId) (.semanticTransitionMismatch "schema_id")
  failIf (transition.assetId ≠ continuation.assetId) (.semanticTransitionMismatch "asset_id")
  failIf (transition.totalSupply ≠ continuation.totalSupply)
    (.semanticTransitionMismatch "total_supply")
  failIf (transition.spentSupply ≠ continuation.spentSupply)
    (.semanticTransitionMismatch "spent_supply")
  failIf (transition.newSupply ≠ continuation.newSupply) (.semanticTransitionMismatch "new_supply")
  failIf (transition.burnedSupply ≠ continuation.burnedSupply)
    (.semanticTransitionMismatch "burned_supply")
  failIf (transition.burnAuthorizationCommitment ≠ continuation.burnAuthorizationCommitment)
    (.semanticTransitionMismatch "burn_authorization_commitment")
  failIf (transition.spentAllocationCount ≠ continuation.spentAllocationCount)
    (.semanticTransitionMismatch "spent_allocation_count")
  failIf (transition.newAllocationCount ≠ continuation.newAllocationCount)
    (.semanticTransitionMismatch "new_allocation_count")
  failIf (transition.laneId ≠ continuation.laneId) (.semanticTransitionMismatch "lane_id")
  failIf (transition.privacyPolicy ≠ continuation.privacyPolicy)
    (.semanticTransitionMismatch "privacy_policy")
  failIf (transition.policyCommitment ≠ continuation.policyCommitment)
    (.semanticTransitionMismatch "policy_commitment")
  failIf (transition.metadataCommitment ≠ continuation.metadataCommitment)
    (.semanticTransitionMismatch "metadata_commitment")
  failIf (transition.previousOwnerCommitment ≠ continuation.previousOwnerCommitment)
    (.semanticTransitionMismatch "previous_owner_commitment")
  failIf (transition.newOwnerCommitment ≠ continuation.newOwnerCommitment)
    (.semanticTransitionMismatch "new_owner_commitment")
  failIf (transition.ownershipAuthorizationCommitment ≠
      continuation.ownershipAuthorizationCommitment)
    (.semanticTransitionMismatch "ownership_authorization_commitment")
  failIf (transition.previousStateDigest ≠ continuation.previousStateDigest)
    (.semanticTransitionMismatch "previous_state_digest")
  let spentAllocationCount ← countAsU64 "spent_allocation_count" transition.spentAllocationCount
  let newAllocationCount ← countAsU64 "new_allocation_count" transition.newAllocationCount
  let statement := ofReports transition continuation spentAllocationCount newAllocationCount
  statement.validate
  .ok statement

/-- What the validation of a statement checks, over the naturals where supplies are added. -/
structure ValidStatement (s : SemanticTransitionStatement) : Prop where
  schemaId : s.schemaId ≠ Bytes.zero
  assetId : s.assetId ≠ Bytes.zero
  previousStateDigest : s.previousStateDigest ≠ Bytes.zero
  newStateDigest : s.newStateDigest ≠ Bytes.zero
  transitionDigest : s.transitionDigest ≠ Bytes.zero
  continuationCommitment : s.continuationCommitment ≠ Bytes.zero
  continuationShapeRoot : s.continuationShapeRoot ≠ Bytes.zero
  laneId : s.laneId ≠ Bytes.zero
  policyCommitment : s.policyCommitment ≠ Bytes.zero
  metadataCommitment : s.metadataCommitment ≠ Bytes.zero
  previousOwnerCommitment : s.previousOwnerCommitment ≠ Bytes.zero
  newOwnerCommitment : s.newOwnerCommitment ≠ Bytes.zero
  handoff : s.previousOwnerCommitment = s.newOwnerCommitment ∨
    s.ownershipAuthorizationCommitment ≠ Bytes.zero
  moves : s.previousStateDigest ≠ s.newStateDigest
  totalSupply : s.totalSupply ≠ 0
  spentAllocationCount : s.spentAllocationCount ≠ 0
  spentSupply : s.spentSupply ≠ 0
  spent_le : s.spentSupply ≤ s.totalSupply
  new_le : s.newSupply ≤ s.totalSupply
  conserved : s.spentSupply.toNat = s.newSupply.toNat + s.burnedSupply.toNat
  allocates_or_burns : s.newAllocationCount ≠ 0 ∨ s.burnedSupply ≠ 0
  supplies_or_burns : s.newSupply ≠ 0 ∨ s.burnedSupply ≠ 0
  burn : s.burnedSupply = 0 ↔ s.burnAuthorizationCommitment = Bytes.zero

lemma SemanticTransitionStatement.validate_eq_ok {s : SemanticTransitionStatement} :
    s.validate = .ok () ↔ ValidStatement s := by
  have hburn : (if s.burnedSupply = 0 then
        failIf (s.burnAuthorizationCommitment.isZero = false)
          (ZkError.semanticTransitionInvalid "unexpected burn_authorization_commitment")
      else
        failIf (s.burnAuthorizationCommitment.isZero = true)
          (.semanticTransitionInvalid "burn_authorization_commitment")) = .ok () ↔
      (s.burnedSupply = 0 ↔ s.burnAuthorizationCommitment = Bytes.zero) := by
    split_ifs with h
    · simp [failIf_eq_ok, Bytes.isZero_iff, h]
    · simp [failIf_eq_ok, Bytes.isZero_iff, h]
  have hhandoff : ¬(s.previousOwnerCommitment ≠ s.newOwnerCommitment ∧
        s.ownershipAuthorizationCommitment.isZero = true) ↔
      s.previousOwnerCommitment = s.newOwnerCommitment ∨
        s.ownershipAuthorizationCommitment ≠ Bytes.zero := by
    rw [not_and_or, not_not, Bytes.isZero_iff]
  simp only [SemanticTransitionStatement.validate, unit_bind_eq_ok, rejectZeroSemantic_eq_ok,
    failIf_eq_ok, hhandoff, not_or, gt_iff_lt, UInt64.not_lt]
  constructor
  · rintro ⟨h1, h2, h3, h4, h5, h6, h7, h8, h9, h10, h11, h12, h13, h14, h15, h16, h17, h18, h⟩
    obtain ⟨accounted, hadd, h⟩ := bind_eq_ok.mp h
    rw [okOr_eq_ok, checkedAdd_eq_some] at hadd
    simp only [unit_bind_eq_ok, failIf_eq_ok, not_not, not_and_or, hburn] at h
    obtain ⟨rfl, h19, h20, h21⟩ := h
    exact ⟨h1, h2, h3, h4, h5, h6, h7, h8, h9, h10, h11, h12, h13, h14, h15, h16, h17, h18.1, h18.2,
      hadd, h19, h20, h21⟩
  · intro h
    refine ⟨h.schemaId, h.assetId, h.previousStateDigest, h.newStateDigest, h.transitionDigest,
      h.continuationCommitment, h.continuationShapeRoot, h.laneId, h.policyCommitment,
      h.metadataCommitment, h.previousOwnerCommitment, h.newOwnerCommitment, h.handoff, h.moves,
      h.totalSupply, h.spentAllocationCount, h.spentSupply, ⟨h.spent_le, h.new_le⟩,
      bind_eq_ok.mpr ⟨s.spentSupply, okOr_eq_ok.mpr (checkedAdd_eq_some.mpr h.conserved), ?_⟩⟩
    simp only [unit_bind_eq_ok, failIf_eq_ok, not_not, not_and_or, hburn]
    exact ⟨trivial, h.allocates_or_burns, h.supplies_or_burns, h.burn⟩

lemma SemanticTransitionStatement.validate_moves {s : SemanticTransitionStatement}
    (h : s.validate = .ok ()) :
    s.previousStateDigest ≠ Bytes.zero ∧ s.newStateDigest ≠ s.previousStateDigest := by
  have hv := SemanticTransitionStatement.validate_eq_ok.mp h
  exact ⟨hv.previousStateDigest, Ne.symm hv.moves⟩

lemma SemanticTransitionStatement.validate_burns {s : SemanticTransitionStatement}
    (h : s.validate = .ok ()) (hn : s.newAllocationCount = 0) : s.burnedSupply ≠ 0 :=
  (SemanticTransitionStatement.validate_eq_ok.mp h).allocates_or_burns.resolve_left
    (not_not.mpr hn)

lemma fromReports_of_agree {transition : RgkTransitionReport} {continuation : RgkContinuationReport}
    (h : ContinuationPlan.ReportsAgree transition continuation)
    (hspent : transition.spentAllocationCount < 2^64)
    (hnew : transition.newAllocationCount < 2^64)
    (hv : (ofReports transition continuation (UInt64.ofNat transition.spentAllocationCount)
      (UInt64.ofNat transition.newAllocationCount)).validate = .ok ()) :
    SemanticTransitionStatement.fromReports transition continuation =
      .ok (ofReports transition continuation (UInt64.ofNat transition.spentAllocationCount)
        (UInt64.ofNat transition.newAllocationCount)) := by
  simp only [SemanticTransitionStatement.fromReports, unit_bind_eq_ok, failIf_eq_ok, not_not]
  exact ⟨h.chain, h.schemaId, h.assetId, h.totalSupply, h.spentSupply, h.newSupply, h.burnedSupply,
    h.burnAuthorizationCommitment, h.spentAllocationCount, h.newAllocationCount, h.laneId,
    h.privacyPolicy, h.policyCommitment, h.metadataCommitment, h.previousOwnerCommitment,
    h.newOwnerCommitment, h.ownershipAuthorizationCommitment, h.previousStateDigest,
    bind_eq_ok.mpr ⟨_, countAsU64_of_lt _ hspent, bind_eq_ok.mpr ⟨_, countAsU64_of_lt _ hnew,
      unit_bind_eq_ok.mpr ⟨hv, rfl⟩⟩⟩⟩

theorem fromReports_inv {transition : RgkTransitionReport} {continuation : RgkContinuationReport}
    {s : SemanticTransitionStatement}
    (h : SemanticTransitionStatement.fromReports transition continuation = .ok s) :
    s = ofReports transition continuation (UInt64.ofNat transition.spentAllocationCount)
        (UInt64.ofNat transition.newAllocationCount) ∧ s.validate = .ok () := by
  simp only [SemanticTransitionStatement.fromReports, unit_bind_eq_ok] at h
  obtain ⟨-, -, -, -, -, -, -, -, -, -, -, -, -, -, -, -, -, -, h⟩ := h
  obtain ⟨m, hm, h⟩ := bind_eq_ok.mp h
  obtain ⟨n, hn, h⟩ := bind_eq_ok.mp h
  obtain ⟨hv, h⟩ := unit_bind_eq_ok.mp h
  rw [countAsU64, unit_bind_eq_ok] at hm hn
  obtain rfl := Except.ok.inj hm.2
  obtain rfl := Except.ok.inj hn.2
  obtain rfl := Except.ok.inj h
  exact ⟨rfl, hv⟩

end Construction

section Layout

def chainIdTaggedLeU32 (c : KaspaChainId) : List UInt8 :=
  le32 (KaspaChainId.tag.toUInt32) ++ le32 c.asU8.toUInt32

@[simp] lemma length_chainIdTaggedLeU32 (c : KaspaChainId) :
    (chainIdTaggedLeU32 c).length = 8 := by
  simp [chainIdTaggedLeU32]

def SemanticTransitionStatement.publicInputs (s : SemanticTransitionStatement) : List UInt8 :=
  chainIdTaggedLeU32 s.chainId ++ (s.schemaId.toList ++ (s.assetId.toList ++
    (s.previousStateDigest.toList ++ (s.newStateDigest.toList ++ (s.transitionDigest.toList ++
      (s.continuationCommitment.toList ++ (s.continuationShapeRoot.toList ++ (s.laneId.toList ++
        (s.policyCommitment.toList ++ (s.metadataCommitment.toList ++
          (s.previousOwnerCommitment.toList ++ (s.newOwnerCommitment.toList ++
            (s.ownershipAuthorizationCommitment.toList ++ (le64 s.totalSupply ++
              (le64 s.spentAllocationCount ++ (le64 s.newAllocationCount ++
                (le64 s.privacyPolicy.asU8.toUInt64 ++ (le64 s.spentSupply ++ (le64 s.newSupply ++
                  (le64 s.burnedSupply ++ s.burnAuthorizationCommitment.toList))))))))))))))))))))

@[simp] lemma length_publicInputs (s : SemanticTransitionStatement) :
    s.publicInputs.length = 512 := by
  simp [SemanticTransitionStatement.publicInputs]

@[simp] theorem slice_publicInputs (s : SemanticTransitionStatement) :
    slice s.publicInputs 0 8 = chainIdTaggedLeU32 s.chainId ∧
    slice s.publicInputs 8 40 = s.schemaId.toList ∧
    slice s.publicInputs 40 72 = s.assetId.toList ∧
    slice s.publicInputs 72 104 = s.previousStateDigest.toList ∧
    slice s.publicInputs 104 136 = s.newStateDigest.toList ∧
    slice s.publicInputs 136 168 = s.transitionDigest.toList ∧
    slice s.publicInputs 168 200 = s.continuationCommitment.toList ∧
    slice s.publicInputs 200 232 = s.continuationShapeRoot.toList ∧
    slice s.publicInputs 232 264 = s.laneId.toList ∧
    slice s.publicInputs 264 296 = s.policyCommitment.toList ∧
    slice s.publicInputs 296 328 = s.metadataCommitment.toList ∧
    slice s.publicInputs 328 360 = s.previousOwnerCommitment.toList ∧
    slice s.publicInputs 360 392 = s.newOwnerCommitment.toList ∧
    slice s.publicInputs 392 424 = s.ownershipAuthorizationCommitment.toList ∧
    slice s.publicInputs 424 432 = le64 s.totalSupply ∧
    slice s.publicInputs 432 440 = le64 s.spentAllocationCount ∧
    slice s.publicInputs 440 448 = le64 s.newAllocationCount ∧
    slice s.publicInputs 448 456 = le64 s.privacyPolicy.asU8.toUInt64 ∧
    slice s.publicInputs 456 464 = le64 s.spentSupply ∧
    slice s.publicInputs 464 472 = le64 s.newSupply ∧
    slice s.publicInputs 472 480 = le64 s.burnedSupply ∧
    slice s.publicInputs 480 512 = s.burnAuthorizationCommitment.toList := by
  simp [SemanticTransitionStatement.publicInputs, slice_append_right, slice_append_left,
    slice_full]

@[simp] lemma byteAt_chainId (s : SemanticTransitionStatement) :
    byteAt s.publicInputs 4 = s.chainId.asU8 := by
  have hb := @byteAt_slice s.publicInputs 0 8 4 (by omega)
  rw [(slice_publicInputs s).1] at hb
  rw [← hb]
  cases s.chainId <;> rfl

@[simp] lemma byteAt_privacyPolicy (s : SemanticTransitionStatement) :
    byteAt s.publicInputs 448 = s.privacyPolicy.asU8 := by
  have hs : slice s.publicInputs 448 456 = le64 s.privacyPolicy.asU8.toUInt64 := by simp
  have hb := @byteAt_slice s.publicInputs 448 456 0 (by omega)
  rw [hs] at hb
  rw [← hb]
  cases s.privacyPolicy <;> rfl

theorem publicInputs_injective :
    Function.Injective SemanticTransitionStatement.publicInputs := by
  intro s t h
  have hs := slice_publicInputs s
  have hchain := byteAt_chainId s
  have hprivacy := byteAt_privacyPolicy s
  rw [h] at hs hchain hprivacy
  simp only [slice_publicInputs, byteAt_chainId, byteAt_privacyPolicy, KaspaChainId.asU8_inj,
    LanePrivacyPolicy.asU8_inj, Bytes.toList_inj, le64_inj] at hs hchain hprivacy
  cases s
  cases t
  simp_all

end Layout

def SemanticTransitionStatement.matchesReceipt (s : SemanticTransitionStatement)
    (receipt : CanonicalEncoding.RgkReceipt) : Bool :=
  decide (receipt.chainId = s.chainId ∧ receipt.oldState.chainId = s.chainId ∧
    receipt.newState.chainId = s.chainId ∧ receipt.oldState.assetId = s.assetId ∧
    receipt.newState.assetId = s.assetId ∧
    receipt.oldState.stateDigest = s.previousStateDigest ∧
    receipt.newState.stateDigest = s.newStateDigest ∧
    receipt.transitionDigest = s.transitionDigest ∧
    receipt.continuationCommitment = s.continuationCommitment)

end RgkProtocol.SemanticStatement
