import RgkProtocol.AssetLineage
import RgkProtocol.LinkedPath

/-!
# Fields that a lineage cannot change

A transition is tied to the step before it by the state digest alone. A field that the digest
commits to is the same along the whole lineage; the schema id is not one of them.
-/
namespace RgkProtocol.LineageFields
open ByteStrings Hashing CoreTypes Checked AssetTypes AssetEncoding AssetValidation AssetLineage
open LinkedPath

section Constancy
variable {H : List UInt8 → Bytes32} {issue : RgkAssetIssue}

/-- A transition of the asset that the issue created. -/
structure SameAsset (H : List UInt8 → Bytes32) (issue : RgkAssetIssue) (t : RgkTransition) :
    Prop where
  chain : t.chain = issue.chain
  assetId : t.assetId = issue.assetId
  totalSupply : t.totalSupply = issue.totalSupply
  metadataCommitment : t.metadataCommitment = issue.metadataCommitment
  laneId : t.laneId = issue.laneId
  privacyPolicy : t.privacyPolicy = issue.privacyPolicy
  policyCommitment : policyCommitmentBytes H t.proofPolicy = policyCommitmentBytes H issue.proofPolicy

/-- A state of that asset: its allocations stand on the chain of the issue. -/
structure IssuedState (H : List UInt8 → Bytes32) (issue : RgkAssetIssue)
    (input : RgkStateDigestInput) : Prop where
  assetId : input.assetId = issue.assetId
  totalSupply : input.totalSupply = issue.totalSupply
  metadataCommitment : input.metadataCommitment = issue.metadataCommitment
  laneId : input.laneId = issue.laneId
  privacyPolicy : input.privacyPolicy = issue.privacyPolicy
  policyCommitment : input.policyCommitment = policyCommitmentBytes H issue.proofPolicy
  chain : ∀ a ∈ input.allocations, a.anchor.chain = issue.chain

lemma issuedState_issue {r : RgkIssueReport} (hv : RgkAssetIssue.validate H issue = .ok r) :
    IssuedState H issue (RgkAssetIssue.stateInput H issue) :=
  ⟨rfl, rfl, rfl, rfl, rfl, rfl, fun a ha => ((RgkAssetIssue.validate_inv hv).1.each a ha).chain⟩

/-- What one step keeps. The chain is not in the digest: it is recovered from a spent allocation,
and there is always one. -/
lemma IssuedState.sameAsset {input : RgkStateDigestInput} {t : RgkTransition}
    {r : RgkTransitionReport} (h : IssuedState H issue input) (ha : AcceptedTransition H t r)
    (hsame : SameState (RgkTransition.previousInput t (policyCommitmentBytes H t.proofPolicy))
      input) : SameAsset H issue t := by
  obtain ⟨a, hmem⟩ := List.exists_mem_of_ne_nil _ ha.spent_ne
  have hchain : a.anchor.chain = issue.chain := h.chain a (hsame.allocations.mem_iff.mp hmem)
  exact {
    chain := (ha.spent.each a hmem).chain.symm.trans hchain
    assetId := hsame.assetId.trans h.assetId
    totalSupply := hsame.totalSupply.trans h.totalSupply
    metadataCommitment := hsame.metadataCommitment.trans h.metadataCommitment
    laneId := hsame.laneId.trans h.laneId
    privacyPolicy := hsame.privacyPolicy.trans h.privacyPolicy
    policyCommitment := hsame.policyCommitment.trans h.policyCommitment }

lemma SameAsset.issuedState {t : RgkTransition} {r : RgkTransitionReport} (h : SameAsset H issue t)
    (ha : AcceptedTransition H t r) :
    IssuedState H issue (RgkTransition.newInput t (policyCommitmentBytes H t.proofPolicy)) where
  assetId := h.assetId
  totalSupply := h.totalSupply
  metadataCommitment := h.metadataCommitment
  laneId := h.laneId
  privacyPolicy := h.privacyPolicy
  policyCommitment := h.policyCommitment
  chain a hmem := (ha.new.each a hmem).chain.trans h.chain

/-- The owners of a lineage form a path from the issue's owner. -/
abbrev OwnersLinked (issue : RgkAssetIssue) (ts : List RgkTransition) (owner : Bytes32) : Prop :=
  Linked RgkTransition.previousOwnerCommitment RgkTransition.newOwnerCommitment
    issue.ownerCommitment ts owner

lemma Lineage.fields {ts : List RgkTransition} {s : LineageState} (hrun : Lineage H issue ts s)
    (hcf : CollisionFree H {x | x ∈ lineagePreimages H issue ts}) :
    (∀ t ∈ ts, SameAsset H issue t) ∧ IssuedState H issue (currentInput H issue ts) ∧
      OwnersLinked issue ts (currentInput H issue ts).ownerCommitment := by
  induction hrun with
  | issue hv => exact ⟨by simp, issuedState_issue hv, rfl⟩
  | @step ts s t r hrun hv hlink ih =>
    obtain ⟨hall, hstate, howners⟩ := ih (hcf.mono (lineagePreimages_mono ts [t]))
    have ha := RgkTransition.validate_inv hv
    have hsame := hrun.consumes_current hv hlink hcf
    have ht := hstate.sameAsset ha hsame
    have howner : t.previousOwnerCommitment = (currentInput H issue ts).ownerCommitment :=
      hsame.ownerCommitment
    rw [currentInput_concat]
    refine ⟨?_, ht.issuedState ha, linked_concat.mpr ⟨howner ▸ howners, rfl⟩⟩
    intro u hu
    rcases List.mem_append.mp hu with hu | hu
    · exact hall u hu
    · exact List.mem_singleton.mp hu ▸ ht

end Constancy

/-- Along a lineage everything that identifies the asset stays as issued, except for the schema id,
and each transition hands over from the owner that the step before it established. -/
theorem lineage_fields_constant (H : List UInt8 → Bytes32) (issue : RgkAssetIssue)
    (ts : List RgkTransition) (s : LineageState) (hrun : Lineage H issue ts s)
    (hcf : CollisionFree H {x | x ∈ lineagePreimages H issue ts}) :
    (∀ t ∈ ts, SameAsset H issue t) ∧ ∃ owner, OwnersLinked issue ts owner := by
  obtain ⟨hall, -, howners⟩ := Lineage.fields hrun hcf
  exact ⟨hall, _, howners⟩

theorem lineage_fields_constant_sample :
    (∀ t ∈ sampleSteps, SameAsset Sha256.digest (sampleIssue sampleStart) t) ∧
      ∃ owner, OwnersLinked (sampleIssue sampleStart) sampleSteps owner :=
  lineage_fields_constant _ _ _ _ sample_lineage sampleSteps_collisionFree

section Schema
variable {H : List UInt8 → Bytes32}

/-- No check ties the schema id to anything: an accepted transition is accepted under any other. -/
lemma AcceptedTransition.withSchema {t : RgkTransition} {r : RgkTransitionReport}
    (ha : AcceptedTransition H t r) {schema : Bytes32} (hs : schema ≠ Bytes.zero) :
    AcceptedTransition H { t with schemaId := schema }
      (RgkTransition.reportWith H { t with schemaId := schema } r.spentSupply r.newSupply
        r.burnedSupply (policyCommitmentBytes H t.proofPolicy)) where
  __ := ha
  common := validateCommon_eq_ok.mpr ⟨hs, (validateCommon_eq_ok.mp ha.common).2⟩
  changed := by
    have hchanged := ha.changed
    rw [ha.report] at hchanged
    exact hchanged
  report := rfl

end Schema

/-- A transition of the sample lineage that names another schema than the issue. -/
def driftingTransition : RgkTransition :=
  { sampleTransition 2 sampleStart sampleMiddle none with schemaId := Bytes.fill 32 0x12 }

/-- A validated transition can change the schema id of a lineage. -/
theorem schema_id_drifts :
    (∃ s, Lineage Sha256.digest (sampleIssue sampleStart) [driftingTransition] s) ∧
      CollisionFree Sha256.digest {x | x ∈ lineagePreimages Sha256.digest (sampleIssue sampleStart)
        [driftingTransition]} ∧
      driftingTransition.schemaId ≠ (sampleIssue sampleStart).schemaId := by
  refine ⟨?_, ?_, by decide⟩
  · obtain ⟨r, hr, hb, hv⟩ := sample_move
    have ha := AcceptedTransition.withSchema (RgkTransition.validate_inv hv)
      (show (Bytes.fill 32 0x12 : Bytes32) ≠ Bytes.zero by decide)
    have hstart := sample_starts sampleStart (by decide +kernel)
    exact ⟨_, hstart.step (RgkTransition.validate_of_accepted ha) rfl⟩
  · -- The schema id is in none of the strings that are hashed for the states.
    have hsame : lineagePreimages Sha256.digest (sampleIssue sampleStart) [driftingTransition] =
        lineagePreimages Sha256.digest (sampleIssue sampleStart)
          [sampleTransition 2 sampleStart sampleMiddle none] := rfl
    rw [hsame]
    apply sample_collisionFree (by simp [sampleStates])
    intro t ht
    obtain rfl := List.mem_singleton.mp ht
    exact ⟨sampleStart, by simp [sampleStates], sampleMiddle, by simp [sampleStates], _, _, rfl⟩

end RgkProtocol.LineageFields
