import RgkProtocol.NftValidation
import RgkProtocol.LineageFields

/-!
# The life of a token

A token is minted, handed over by transfers and sales, and burned. Each accepted step is also a
step of a native lineage, so that the digest link ties the steps; the token checks keep the one
allocation and follow the owner. A burned token has no allocation left, and nothing can be spent
from an empty state.
-/
namespace RgkProtocol.NftLifecycle
open ByteStrings Hashing CoreTypes Checked AssetTypes AssetEncoding AssetValidation AssetLineage
open LinkedPath LineageFields NftValidation

/-- What a verifier carries along the life of a token. -/
structure TokenState where
  stateDigest : Bytes32
  allocations : List RgkAllocation
  ownerCommitment : Bytes32

section Runs
variable (H : List UInt8 → Bytes32)

/-- The token's spec after a change of owner. -/
def RgkNftTokenSpec.heldBy (spec : RgkNftTokenSpec) (owner : Bytes32) : RgkNftTokenSpec :=
  { spec with ownerCommitment := owner }

/-- A transfer or a sale that hands the token of `spec` over to an owner. -/
inductive Handover (spec : RgkNftTokenSpec) (t : RgkTransition) :
    Bytes32 → RgkTransitionReport → Prop
  | transfer {owner : Bytes32} {r : RgkNftTransferReport}
      (h : spec.validateSingleTokenTransfer H t owner = .ok r) :
      Handover spec t owner r.transitionReport
  | sale {terms : RgkNftMarketplaceSaleTerms} {r : RgkNftMarketplaceSaleReport}
      (h : spec.validateMarketplaceSaleTransition H t terms = .ok r) :
      Handover spec t terms.buyerOwnerCommitment r.transitionReport

inductive TokenLife (spec : RgkNftTokenSpec) (issue : RgkAssetIssue) :
    List RgkTransition → TokenState → Prop
  | mint {r : RgkNftMintReport} (h : spec.validateMintIssue H issue = .ok r) :
      TokenLife spec issue [] ⟨r.issueReport.stateDigest, issue.allocations, spec.ownerCommitment⟩
  | handover {ts : List RgkTransition} {s : TokenState} {t : RgkTransition} {owner : Bytes32}
      {r : RgkTransitionReport} (hlife : TokenLife spec issue ts s)
      (h : Handover H (RgkNftTokenSpec.heldBy spec s.ownerCommitment) t owner r)
      (hlink : t.previousStateDigest = s.stateDigest) :
      TokenLife spec issue (ts ++ [t]) ⟨r.newStateDigest, t.newAllocations, owner⟩

end Runs

section Steps
variable {H : List UInt8 → Bytes32} {spec : RgkNftTokenSpec} {issue : RgkAssetIssue}

lemma Handover.accepted {t : RgkTransition} {owner : Bytes32} {r : RgkTransitionReport}
    (h : Handover H spec t owner r) : ∃ id, AcceptedTransfer H spec t owner id r := by
  cases h with
  | transfer h => exact ⟨_, spec.validateSingleTokenTransfer_inv h⟩
  | sale h => exact ⟨_, spec.validateMarketplaceSaleTransition_inv h⟩

lemma tokenId_heldBy {owner id id' : Bytes32} (h : spec.tokenId H = .ok id)
    (h' : (RgkNftTokenSpec.heldBy spec owner).tokenId H = .ok id') : id' = id := by
  rw [RgkNftTokenSpec.tokenId_eq_ok] at h h'
  exact h'.2.symm.trans h.2

lemma isTokenTransition_of_heldBy {owner id : Bytes32} {t : RgkTransition}
    (h : IsTokenTransition (RgkNftTokenSpec.heldBy spec owner) id t) :
    IsTokenTransition spec id t :=
  ⟨h.chain, h.schemaId, h.assetId, h.totalSupply, h.metadataCommitment⟩

lemma TokenLife.lineage {ts : List RgkTransition} {s : TokenState}
    (hlife : TokenLife H spec issue ts s) :
    ∃ l : LineageState, Lineage H issue ts l ∧ l.stateDigest = s.stateDigest ∧
      l.allocations = s.allocations := by
  induction hlife with
  | mint h => exact ⟨_, .issue (spec.validateMintIssue_inv h).valid, rfl, rfl⟩
  | handover hlife h hlink ih =>
    obtain ⟨l, hrun, hdigest, -⟩ := ih
    obtain ⟨id, ht⟩ := h.accepted
    exact ⟨_, .step hrun ht.valid (hlink.trans hdigest.symm), rfl, rfl⟩

/-- The token as it stands after some steps of its life. -/
structure HeldToken (H : List UInt8 → Bytes32) (spec : RgkNftTokenSpec) (issue : RgkAssetIssue)
    (id : Bytes32) (ts : List RgkTransition) (s : TokenState) : Prop where
  derived : spec.tokenId H = .ok id
  single : SingleUnit s.allocations
  minted : IsTokenIssue spec id issue
  moved : ∀ t ∈ ts, IsTokenTransition spec id t
  owners : OwnersLinked issue ts s.ownerCommitment
  authorized : ∀ t ∈ ts, t.previousOwnerCommitment ≠ t.newOwnerCommitment →
    t.ownershipAuthorizationCommitment ≠ Bytes.zero

lemma AcceptedTransition.authorized {t : RgkTransition} {r : RgkTransitionReport}
    (ha : AcceptedTransition H t r) (hne : t.previousOwnerCommitment ≠ t.newOwnerCommitment) :
    t.ownershipAuthorizationCommitment ≠ Bytes.zero :=
  (validateOwnershipHandoff_eq_ok.mp ha.handoff).resolve_left hne

lemma heldToken_mint {r : RgkNftMintReport} (h : spec.validateMintIssue H issue = .ok r) :
    HeldToken H spec issue r.tokenId []
      ⟨r.issueReport.stateDigest, issue.allocations, spec.ownerCommitment⟩ := by
  have hm := spec.validateMintIssue_inv h
  exact ⟨hm.derived, hm.single, hm.token, by simp, hm.owner, by simp⟩

lemma HeldToken.handover {id owner : Bytes32} {ts : List RgkTransition} {s : TokenState}
    {t : RgkTransition} {r : RgkTransitionReport} (hs : HeldToken H spec issue id ts s)
    (h : Handover H (RgkNftTokenSpec.heldBy spec s.ownerCommitment) t owner r) :
    HeldToken H spec issue id (ts ++ [t]) ⟨r.newStateDigest, t.newAllocations, owner⟩ := by
  obtain ⟨id', ht⟩ := h.accepted
  obtain rfl := tokenId_heldBy hs.derived ht.derived
  have hprevious : t.previousOwnerCommitment = s.ownerCommitment := ht.previousOwner
  have ha := RgkTransition.validate_inv ht.valid
  refine ⟨hs.derived, ht.new, hs.minted, ?_, ?_, ?_⟩
  · simpa [or_imp, forall_and] using And.intro hs.moved (isTokenTransition_of_heldBy ht.token)
  · exact linked_concat.mpr ⟨hprevious ▸ hs.owners, ht.newOwner⟩
  · simpa [or_imp, forall_and] using
      And.intro hs.authorized (AcceptedTransition.authorized ha)

lemma TokenLife.held {ts : List RgkTransition} {s : TokenState}
    (hlife : TokenLife H spec issue ts s) : ∃ id, HeldToken H spec issue id ts s := by
  induction hlife with
  | mint h => exact ⟨_, heldToken_mint h⟩
  | handover hlife h hlink ih =>
    obtain ⟨id, hs⟩ := ih
    exact ⟨id, hs.handover h⟩

/-- The state that a burn leaves has no allocation, so nothing can continue from it. -/
lemma burned_is_final {burn : RgkTransition} {r : RgkNftBurnReport}
    (hburn : spec.validateTokenBurnTransition H burn = .ok r) {u : RgkTransition}
    (hlink : u.previousStateDigest = r.transitionReport.newStateDigest)
    (hcf : CollisionFree H {x | x ∈ RgkTransition.preimages H burn ++ RgkTransition.preimages H u})
    (q : RgkTransitionReport) : RgkTransition.validate H u ≠ .ok q := by
  intro hu
  have hb := spec.validateTokenBurnTransition_inv hburn
  have hreport := (RgkTransition.validate_inv hb.valid).report
  have ha := RgkTransition.validate_inv hu
  have heq : stateDigestForAllocations H
        (RgkTransition.previousInput u (policyCommitmentBytes H u.proofPolicy)) =
      stateDigestForAllocations H
        (RgkTransition.newInput burn (policyCommitmentBytes H burn.proofPolicy)) := by
    rw [ha.previousDigest, hlink, hreport]
    rfl
  have hsame := sameState_of_stateDigest_eq hcf
    (fun x hx => List.mem_append_right _ (List.mem_append_left _ hx))
    (fun x hx => List.mem_append_left _ (List.mem_append_right _ hx)) heq
  have hperm : u.spentAllocations.Perm burn.newAllocations := hsame.allocations
  rw [hb.new] at hperm
  exact ha.spent_ne hperm.eq_nil

end Steps

/-- Along its whole life a token stands in one allocation of amount one under one id, metadata and
schema, its state digest commits to that allocation and to the owner the last step named, and every
change of owner was authorized. Its burn leaves no allocation and no transition continues from it. -/
theorem token_lifecycle (H : List UInt8 → Bytes32) (spec : RgkNftTokenSpec) (issue : RgkAssetIssue)
    (ts : List RgkTransition) (s : TokenState) (hlife : TokenLife H spec issue ts s)
    (hcf : CollisionFree H {x | x ∈ lineagePreimages H issue ts}) :
    (∃ id, HeldToken H spec issue id ts s) ∧ SpendsCreated issue.allocations ts ∧
      (currentInput H issue ts).allocations = s.allocations ∧
      (currentInput H issue ts).ownerCommitment = s.ownerCommitment ∧
      stateDigestForAllocations H (currentInput H issue ts) = s.stateDigest ∧
      ∀ burn r, (RgkNftTokenSpec.heldBy spec s.ownerCommitment).validateTokenBurnTransition H burn =
          .ok r →
        burn.newAllocations = [] ∧
          ∀ u : RgkTransition, u.previousStateDigest = r.transitionReport.newStateDigest →
            CollisionFree H
              {x | x ∈ RgkTransition.preimages H burn ++ RgkTransition.preimages H u} →
            ∀ q, RgkTransition.validate H u ≠ .ok q := by
  obtain ⟨l, hrun, hdigest, hallocations⟩ := hlife.lineage
  obtain ⟨id, hs⟩ := hlife.held
  have howners := (Lineage.fields hrun hcf).2.2
  refine ⟨⟨id, hs⟩, hrun.spendsCreated hcf, hrun.current.1.trans hallocations,
    howners.unique hs.owners, hrun.current.2.trans hdigest, ?_⟩
  intro burn r hburn
  exact ⟨(RgkNftTokenSpec.validateTokenBurnTransition_inv hburn).new,
    fun u hlink hcf' q => burned_is_final hburn hlink hcf' q⟩

section Samples

def sampleSpec : RgkNftTokenSpec :=
  { collection := ⟨.kaspaLocalToccata, Bytes.fill 32 0x11, Bytes.fill 32 0x12, 10,
      Bytes.fill 32 0x13, Bytes.fill 32 0xa1, Bytes.fill 32 0xa2⟩,
    tokenIndex := 3, metadataCommitment := Bytes.fill 32 0xa3,
    ownerCommitment := Bytes.fill 32 0xb1 }

def sampleTokenId : Bytes32 :=
  domainHashStr Sha256.digest "rgk:nft:token-id:v1" sampleSpec.tokenIdPayload

def sampleMint : RgkAssetIssue :=
  { sampleIssue [sampleAllocation 1 1] with
    assetId := sampleTokenId, totalSupply := 1, metadataCommitment := Bytes.fill 32 0xa3,
    ownerCommitment := Bytes.fill 32 0xb1 }

/-- A step of the sample token from the state of a digest input to new allocations. -/
def sampleTokenStep (previous : RgkStateDigestInput) (owner : Bytes32) (tx : UInt8)
    (new : List RgkAllocation) (burn : Option RgkBurnProof) : RgkTransition :=
  { sampleTransition tx previous.allocations new burn with
    assetId := sampleTokenId, totalSupply := 1, metadataCommitment := Bytes.fill 32 0xa3,
    previousOwnerCommitment := previous.ownerCommitment, newOwnerCommitment := owner,
    ownershipAuthorizationCommitment := Bytes.fill 32 0xb3,
    previousStateDigest := stateDigestForAllocations Sha256.digest previous }

def sampleMintInput : RgkStateDigestInput := RgkAssetIssue.stateInput Sha256.digest sampleMint

def sampleSale : RgkTransition :=
  sampleTokenStep sampleMintInput (Bytes.fill 32 0xb2) 2 [sampleAllocation 2 1] none

def sampleTerms : RgkNftMarketplaceSaleTerms :=
  { chain := .kaspaLocalToccata, collectionId := Bytes.fill 32 0x12, tokenId := sampleTokenId,
    sellerOwnerCommitment := Bytes.fill 32 0xb1, buyerOwnerCommitment := Bytes.fill 32 0xb2,
    paymentAssetId := Bytes.fill 32 0xc1, priceAmount := 100,
    royaltyPolicyCommitment := Bytes.fill 32 0xa2, royaltyAmount := 5,
    authorizationCommitment := Bytes.fill 32 0xb3 }

def sampleSaleInput : RgkStateDigestInput :=
  RgkTransition.newInput sampleSale (policyCommitmentBytes Sha256.digest sampleSale.proofPolicy)

def sampleBurn : RgkTransition :=
  sampleTokenStep sampleSaleInput (Bytes.fill 32 0xb2) 3 [] (some ⟨1, Bytes.fill 32 0xaa⟩)

def sampleBurnInput : RgkStateDigestInput :=
  RgkTransition.newInput sampleBurn (policyCommitmentBytes Sha256.digest sampleBurn.proofPolicy)

/-- An attempt to go on from the burned state. -/
def sampleRevival : RgkTransition :=
  sampleTokenStep sampleBurnInput (Bytes.fill 32 0xb2) 4 [sampleAllocation 4 1] none

lemma sampleMint_ok : ∃ r, sampleSpec.validateMintIssue Sha256.digest sampleMint = .ok r :=
  exists_ok_of_isSome (by decide +kernel)

lemma sampleSale_ok :
    ∃ r, sampleSpec.validateMarketplaceSaleTransition Sha256.digest sampleSale sampleTerms = .ok r :=
  exists_ok_of_isSome (by decide +kernel)

lemma sampleBurn_ok : ∃ r, (RgkNftTokenSpec.heldBy sampleSpec
    (Bytes.fill 32 0xb2)).validateTokenBurnTransition Sha256.digest sampleBurn = .ok r :=
  exists_ok_of_isSome (by decide +kernel)

/-- The strings hashed for the sample states: mint, sale, burn and the attempt to go on. -/
def samplePreimageList : List (List UInt8) :=
  [sampleMintInput, sampleSaleInput, sampleBurnInput,
    RgkTransition.newInput sampleRevival (policyCommitmentBytes Sha256.digest
      sampleRevival.proofPolicy)].flatMap (stateDigestPreimages Sha256.digest)

lemma samplePreimageList_collisionFree :
    CollisionFree Sha256.digest {x | x ∈ samplePreimageList} :=
  .of_nodup (by decide +kernel)

lemma sampleLife : ∃ s, TokenLife Sha256.digest sampleSpec sampleMint [sampleSale] s ∧
    s.ownerCommitment = Bytes.fill 32 0xb2 := by
  obtain ⟨r, hmint⟩ := sampleMint_ok
  obtain ⟨q, hsale⟩ := sampleSale_ok
  have hdigest := (RgkAssetIssue.validate_inv (sampleSpec.validateMintIssue_inv hmint).valid).2
  have hlink : sampleSale.previousStateDigest = r.issueReport.stateDigest := by
    rw [hdigest, sampleSale, sampleTokenStep, sampleMintInput]
  have hmove : Handover Sha256.digest (RgkNftTokenSpec.heldBy sampleSpec sampleSpec.ownerCommitment)
      sampleSale sampleTerms.buyerOwnerCommitment q.transitionReport := .sale hsale
  exact ⟨_, .handover (.mint hmint) hmove hlink, rfl⟩

end Samples

/-- The sample token is minted, sold and burned, and cannot be revived. -/
theorem token_lifecycle_sample :
    ∃ s r, (∃ id, HeldToken Sha256.digest sampleSpec sampleMint id [sampleSale] s) ∧
      (RgkNftTokenSpec.heldBy sampleSpec s.ownerCommitment).validateTokenBurnTransition
        Sha256.digest sampleBurn = .ok r ∧
      sampleRevival.previousStateDigest = r.transitionReport.newStateDigest ∧
      ∀ q, RgkTransition.validate Sha256.digest sampleRevival ≠ .ok q := by
  obtain ⟨s, hlife, howner⟩ := sampleLife
  obtain ⟨r, hburn⟩ := sampleBurn_ok
  rw [← howner] at hburn
  have hlink : sampleRevival.previousStateDigest = r.transitionReport.newStateDigest := by
    have hb := RgkNftTokenSpec.validateTokenBurnTransition_inv hburn
    rw [(RgkTransition.validate_inv hb.valid).report]
    rfl
  have hsub : ∀ x ∈ lineagePreimages Sha256.digest sampleMint [sampleSale],
      x ∈ samplePreimageList := by
    intro x hx
    simp only [lineagePreimages, RgkTransition.preimages, List.flatMap_cons, List.flatMap_nil,
      List.append_nil, List.mem_append] at hx
    rcases hx with hx | hx | hx
    · exact List.mem_flatMap.mpr ⟨sampleMintInput, by simp, hx⟩
    · exact List.mem_flatMap.mpr ⟨sampleMintInput, by simp, hx⟩
    · exact List.mem_flatMap.mpr ⟨sampleSaleInput, by simp, hx⟩
  have hsub' : ∀ x ∈ RgkTransition.preimages Sha256.digest sampleBurn ++
      RgkTransition.preimages Sha256.digest sampleRevival, x ∈ samplePreimageList := by
    intro x hx
    simp only [RgkTransition.preimages, List.mem_append] at hx
    rcases hx with (hx | hx) | hx | hx
    · exact List.mem_flatMap.mpr ⟨sampleSaleInput, by simp, hx⟩
    · exact List.mem_flatMap.mpr ⟨sampleBurnInput, by simp, hx⟩
    · exact List.mem_flatMap.mpr ⟨sampleBurnInput, by simp, hx⟩
    · exact List.mem_flatMap.mpr ⟨_, by simp, hx⟩
  obtain ⟨hheld, -, -, -, -, hfinal⟩ := token_lifecycle _ _ _ _ s hlife
    (samplePreimageList_collisionFree.mono hsub)
  exact ⟨s, r, hheld, hburn, hlink, (hfinal sampleBurn r hburn).2 sampleRevival hlink
    (samplePreimageList_collisionFree.mono hsub')⟩

end RgkProtocol.NftLifecycle
