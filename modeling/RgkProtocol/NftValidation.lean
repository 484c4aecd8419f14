import RgkProtocol.AssetValidation

/-!
# Non-fungible tokens

A token is an asset of supply one whose id is derived from its collection, its index and its
metadata. The validators for minting, transfer, marketplace sale and burn add their shape checks
to the native ones; each has one lemma that says what its success means.
-/
namespace RgkProtocol.NftValidation
open ByteStrings Hashing CoreTypes Checked AssetTypes AssetEncoding AssetValidation

structure RgkNftCollectionIdDerivation where
  chain : KaspaChainId
  schemaId : Bytes32
  maxSupply : UInt64
  issuerOwnerCommitment : Bytes32
  templateCommitment : Bytes32
  royaltyPolicyCommitment : Bytes32
  deriving DecidableEq

structure RgkNftCollectionPolicy where
  chain : KaspaChainId
  schemaId : Bytes32
  collectionId : Bytes32
  maxSupply : UInt64
  issuerOwnerCommitment : Bytes32
  templateCommitment : Bytes32
  royaltyPolicyCommitment : Bytes32
  deriving DecidableEq

structure RgkNftTokenSpec where
  collection : RgkNftCollectionPolicy
  tokenIndex : UInt64
  metadataCommitment : Bytes32
  ownerCommitment : Bytes32
  deriving DecidableEq

structure RgkNftMarketplaceSaleTerms where
  chain : KaspaChainId
  collectionId : Bytes32
  tokenId : Bytes32
  sellerOwnerCommitment : Bytes32
  buyerOwnerCommitment : Bytes32
  paymentAssetId : Bytes32
  priceAmount : UInt64
  royaltyPolicyCommitment : Bytes32
  royaltyAmount : UInt64
  authorizationCommitment : Bytes32
  deriving DecidableEq

structure RgkNftMintReport where
  tokenId : Bytes32
  tokenCommitment : Bytes32
  issueReport : RgkIssueReport
  deriving DecidableEq

structure RgkNftTransferReport where
  tokenId : Bytes32
  tokenCommitment : Bytes32
  transitionReport : RgkTransitionReport
  deriving DecidableEq

structure RgkNftMarketplaceSaleReport where
  tokenId : Bytes32
  saleCommitment : Bytes32
  tokenCommitment : Bytes32
  transitionReport : RgkTransitionReport
  deriving DecidableEq

structure RgkNftBurnReport where
  tokenId : Bytes32
  burnedTokenCommitment : Bytes32
  transitionReport : RgkTransitionReport
  deriving DecidableEq

section Collections
variable (H : List UInt8 → Bytes32)

def validateNftCollectionMaterial (schemaId : Bytes32) (maxSupply : UInt64)
    (issuerOwnerCommitment templateCommitment royaltyPolicyCommitment : Bytes32) :
    Except RgkAssetError Unit := do
  rejectZero schemaId .zeroSchemaId
  failIf (maxSupply = 0) .zeroTotalSupply
  validateOwnerCommitment issuerOwnerCommitment "nft-issuer"
  rejectZero templateCommitment .zeroNftTemplateCommitment
  rejectZero royaltyPolicyCommitment .zeroNftPolicyCommitment

def collectionIdPayload (input : RgkNftCollectionIdDerivation) : List UInt8 :=
  [input.chain.asU8] ++ (input.schemaId.toList ++ (le64 input.maxSupply ++
    (input.issuerOwnerCommitment.toList ++ (input.templateCommitment.toList ++
      input.royaltyPolicyCommitment.toList))))

def deriveCollectionId (input : RgkNftCollectionIdDerivation) : Except RgkAssetError Bytes32 := do
  validateNftCollectionMaterial input.schemaId input.maxSupply input.issuerOwnerCommitment
    input.templateCommitment input.royaltyPolicyCommitment
  .ok (domainHashStr H "rgk:nft:collection-id:v1" (collectionIdPayload input))

/-- The id is checked to be non-zero; it is not derived again from the other fields. -/
def RgkNftCollectionPolicy.validate (c : RgkNftCollectionPolicy) : Except RgkAssetError Unit := do
  validateNftCollectionMaterial c.schemaId c.maxSupply c.issuerOwnerCommitment c.templateCommitment
    c.royaltyPolicyCommitment
  rejectZero c.collectionId .zeroNftCollectionId

end Collections

section Tokens
variable (H : List UInt8 → Bytes32)

def RgkNftTokenSpec.validate (spec : RgkNftTokenSpec) : Except RgkAssetError Unit := do
  spec.collection.validate
  failIf (spec.tokenIndex ≥ spec.collection.maxSupply)
    (.nftTokenIndexOutOfRange spec.tokenIndex spec.collection.maxSupply)
  validateMetadataCommitment spec.metadataCommitment
  validateOwnerCommitment spec.ownerCommitment "nft-token"

def RgkNftTokenSpec.tokenIdPayload (spec : RgkNftTokenSpec) : List UInt8 :=
  spec.collection.collectionId.toList ++ (le64 spec.tokenIndex ++
    (spec.collection.templateCommitment.toList ++
      (spec.collection.royaltyPolicyCommitment.toList ++ spec.metadataCommitment.toList)))

def RgkNftTokenSpec.tokenId (spec : RgkNftTokenSpec) : Except RgkAssetError Bytes32 := do
  spec.validate
  .ok (domainHashStr H "rgk:nft:token-id:v1" spec.tokenIdPayload)

def RgkNftTokenSpec.tokenCommitmentForOwner (spec : RgkNftTokenSpec) (ownerCommitment : Bytes32) :
    Except RgkAssetError Bytes32 := do
  validateOwnerCommitment ownerCommitment "nft-token"
  let tokenId ← spec.tokenId H
  .ok (domainHashStr H "rgk:nft:token-commitment:v1"
    (spec.collection.collectionId.toList ++ (tokenId.toList ++ ownerCommitment.toList)))

def RgkNftTokenSpec.tokenCommitment (spec : RgkNftTokenSpec) : Except RgkAssetError Bytes32 :=
  spec.tokenCommitmentForOwner H spec.ownerCommitment

end Tokens

section Shapes

def validateSingleNftAllocation (role : String) (allocations : List RgkAllocation) :
    Except RgkAssetError Unit :=
  match allocations with
  | [a] => failIf (a.amount ≠ 1) (.nftAllocationAmountMismatch role 1 a.amount)
  | _ => .error (.nftAllocationShapeMismatch role allocations.length)

def validateEmptyNftAllocations (role : String) (count : ℕ) : Except RgkAssetError Unit :=
  failIf (count ≠ 0) (.nftAllocationShapeMismatch role count)

/-- One allocation, of amount one. -/
def SingleUnit (allocations : List RgkAllocation) : Prop :=
  ∃ a, allocations = [a] ∧ a.amount = 1

lemma validateSingleNftAllocation_eq_ok {role : String} {allocations : List RgkAllocation} :
    validateSingleNftAllocation role allocations = .ok () ↔ SingleUnit allocations := by
  match allocations with
  | [] => simp [validateSingleNftAllocation, SingleUnit]
  | [a] => simp [validateSingleNftAllocation, SingleUnit]
  | a :: b :: rest => simp [validateSingleNftAllocation, SingleUnit]

lemma validateEmptyNftAllocations_eq_ok {role : String} {allocations : List RgkAllocation} :
    validateEmptyNftAllocations role allocations.length = .ok () ↔ allocations = [] := by
  rw [validateEmptyNftAllocations, failIf_eq_ok, not_not, List.length_eq_zero_iff]

/-- The checks with which the issue, the transition and the burn shapes begin. -/
def validateNftIdentity (spec : RgkNftTokenSpec) (tokenId : Bytes32) (chain : KaspaChainId)
    (schemaId assetId : Bytes32) (totalSupply : UInt64) (metadataCommitment : Bytes32) :
    Except RgkAssetError Unit := do
  failIf (chain ≠ spec.collection.chain) (.nftChainMismatch spec.collection.chain chain)
  failIf (schemaId ≠ spec.collection.schemaId) .nftSchemaMismatch
  failIf (assetId ≠ tokenId) .nftAssetMismatch
  failIf (totalSupply ≠ 1) (.nftSupplyMismatch 1 totalSupply)
  failIf (metadataCommitment ≠ spec.metadataCommitment) .nftMetadataMismatch

/-- The fields by which an issue or a transition is one of the token. -/
structure IsToken (spec : RgkNftTokenSpec) (tokenId : Bytes32) (chain : KaspaChainId)
    (schemaId assetId : Bytes32) (totalSupply : UInt64) (metadataCommitment : Bytes32) : Prop where
  chain : chain = spec.collection.chain
  schemaId : schemaId = spec.collection.schemaId
  assetId : assetId = tokenId
  totalSupply : totalSupply = 1
  metadataCommitment : metadataCommitment = spec.metadataCommitment

lemma validateNftIdentity_eq_ok {spec : RgkNftTokenSpec} {tokenId : Bytes32} {chain : KaspaChainId}
    {schemaId assetId : Bytes32} {totalSupply : UInt64} {metadataCommitment : Bytes32} :
    validateNftIdentity spec tokenId chain schemaId assetId totalSupply metadataCommitment = .ok () ↔
      IsToken spec tokenId chain schemaId assetId totalSupply metadataCommitment := by
  simp only [validateNftIdentity, unit_bind_eq_ok, failIf_eq_ok, not_not]
  constructor
  · rintro ⟨hc, hs, ha, ht, hm⟩
    exact ⟨hc, hs, ha, ht, hm⟩
  · rintro ⟨hc, hs, ha, ht, hm⟩
    exact ⟨hc, hs, ha, ht, hm⟩

abbrev IsTokenIssue (spec : RgkNftTokenSpec) (tokenId : Bytes32) (issue : RgkAssetIssue) : Prop :=
  IsToken spec tokenId issue.chain issue.schemaId issue.assetId issue.totalSupply
    issue.metadataCommitment

abbrev IsTokenTransition (spec : RgkNftTokenSpec) (tokenId : Bytes32) (t : RgkTransition) : Prop :=
  IsToken spec tokenId t.chain t.schemaId t.assetId t.totalSupply t.metadataCommitment

def validateNftIssueShape (spec : RgkNftTokenSpec) (issue : RgkAssetIssue) (tokenId : Bytes32) :
    Except RgkAssetError Unit := do
  validateNftIdentity spec tokenId issue.chain issue.schemaId issue.assetId issue.totalSupply
    issue.metadataCommitment
  failIf (issue.ownerCommitment ≠ spec.ownerCommitment) (.nftOwnerMismatch "issue")
  validateSingleNftAllocation "issue" issue.allocations

def validateNftTransitionShape (spec : RgkNftTokenSpec) (t : RgkTransition)
    (tokenId newOwnerCommitment : Bytes32) : Except RgkAssetError Unit := do
  validateNftIdentity spec tokenId t.chain t.schemaId t.assetId t.totalSupply t.metadataCommitment
  failIf (t.previousOwnerCommitment ≠ spec.ownerCommitment) (.nftOwnerMismatch "previous")
  failIf (t.newOwnerCommitment ≠ newOwnerCommitment) (.nftOwnerMismatch "new")
  failIf (t.burn.isSome = true) .nftUnexpectedBurn
  validateSingleNftAllocation "spent" t.spentAllocations
  validateSingleNftAllocation "new" t.newAllocations

/-- A token burn burns exactly the one unit. -/
def validateNftBurnProof : Option RgkBurnProof → Except RgkAssetError Unit
  | some proof => failIf (proof.amount ≠ 1) (.nftAllocationAmountMismatch "burn" 1 proof.amount)
  | none => .error (.supplyDeflationWithoutBurn 1 0)

def validateNftBurnTransitionShape (spec : RgkNftTokenSpec) (t : RgkTransition)
    (tokenId : Bytes32) : Except RgkAssetError Unit := do
  validateNftIdentity spec tokenId t.chain t.schemaId t.assetId t.totalSupply t.metadataCommitment
  failIf (t.previousOwnerCommitment ≠ spec.ownerCommitment) (.nftOwnerMismatch "previous")
  failIf (t.newOwnerCommitment ≠ spec.ownerCommitment) (.nftOwnerMismatch "burn")
  validateNftBurnProof t.burn
  validateSingleNftAllocation "spent" t.spentAllocations
  validateEmptyNftAllocations "burn-new" t.newAllocations.length

end Shapes

section Sales
variable (H : List UInt8 → Bytes32)

def RgkNftMarketplaceSaleTerms.validateBasic (terms : RgkNftMarketplaceSaleTerms) :
    Except RgkAssetError Unit := do
  rejectZero terms.collectionId .zeroNftCollectionId
  rejectZero terms.tokenId .zeroNftTokenId
  validateOwnerCommitment terms.sellerOwnerCommitment "marketplace-seller"
  validateOwnerCommitment terms.buyerOwnerCommitment "marketplace-buyer"
  failIf (terms.sellerOwnerCommitment = terms.buyerOwnerCommitment) .nftMarketplaceSelfSale
  rejectZero terms.paymentAssetId .zeroNftMarketplacePaymentAsset
  failIf (terms.priceAmount = 0) .zeroNftMarketplacePrice
  rejectZero terms.royaltyPolicyCommitment .zeroNftPolicyCommitment
  failIf (terms.royaltyAmount > terms.priceAmount)
    (.nftMarketplaceRoyaltyExceedsPrice terms.royaltyAmount terms.priceAmount)
  rejectZero terms.authorizationCommitment .zeroOwnershipAuthorization

def RgkNftMarketplaceSaleTerms.commitment (terms : RgkNftMarketplaceSaleTerms) :
    Except RgkAssetError Bytes32 := do
  terms.validateBasic
  .ok (domainHashStr H "rgk:nft:marketplace-sale:v1"
    ([terms.chain.asU8] ++ (terms.collectionId.toList ++ (terms.tokenId.toList ++
      (terms.sellerOwnerCommitment.toList ++ (terms.buyerOwnerCommitment.toList ++
        (terms.paymentAssetId.toList ++ (le64 terms.priceAmount ++
          (terms.royaltyPolicyCommitment.toList ++ (le64 terms.royaltyAmount ++
            terms.authorizationCommitment.toList))))))))))

def validateNftMarketplaceSaleTerms (spec : RgkNftTokenSpec) (terms : RgkNftMarketplaceSaleTerms)
    (tokenId : Bytes32) : Except RgkAssetError Unit := do
  terms.validateBasic
  failIf (terms.chain ≠ spec.collection.chain) (.nftChainMismatch spec.collection.chain terms.chain)
  failIf (terms.collectionId ≠ spec.collection.collectionId) .nftMarketplaceCollectionMismatch
  failIf (terms.tokenId ≠ tokenId) .nftMarketplaceTokenMismatch
  failIf (terms.sellerOwnerCommitment ≠ spec.ownerCommitment)
    (.nftOwnerMismatch "marketplace-seller")
  failIf (terms.royaltyPolicyCommitment ≠ spec.collection.royaltyPolicyCommitment)
    .nftMarketplaceRoyaltyPolicyMismatch

end Sales

section Validators
variable (H : List UInt8 → Bytes32)

def RgkNftTokenSpec.validateMintIssue (spec : RgkNftTokenSpec) (issue : RgkAssetIssue) :
    Except RgkAssetError RgkNftMintReport := do
  spec.validate
  let tokenId ← spec.tokenId H
  validateNftIssueShape spec issue tokenId
  let issueReport ← RgkAssetIssue.validate H issue
  let tokenCommitment ← spec.tokenCommitment H
  .ok ⟨tokenId, tokenCommitment, issueReport⟩

def RgkNftTokenSpec.validateSingleTokenTransfer (spec : RgkNftTokenSpec) (t : RgkTransition)
    (newOwnerCommitment : Bytes32) : Except RgkAssetError RgkNftTransferReport := do
  spec.validate
  validateOwnerCommitment newOwnerCommitment "new-nft-token"
  let tokenId ← spec.tokenId H
  validateNftTransitionShape spec t tokenId newOwnerCommitment
  let transitionReport ← RgkTransition.validate H t
  let tokenCommitment ← spec.tokenCommitmentForOwner H newOwnerCommitment
  .ok ⟨tokenId, tokenCommitment, transitionReport⟩

def RgkNftTokenSpec.validateMarketplaceSaleTransition (spec : RgkNftTokenSpec) (t : RgkTransition)
    (terms : RgkNftMarketplaceSaleTerms) : Except RgkAssetError RgkNftMarketplaceSaleReport := do
  spec.validate
  let tokenId ← spec.tokenId H
  validateNftMarketplaceSaleTerms spec terms tokenId
  failIf (t.ownershipAuthorizationCommitment ≠ terms.authorizationCommitment)
    .nftMarketplaceAuthorizationMismatch
  let transferReport ← spec.validateSingleTokenTransfer H t terms.buyerOwnerCommitment
  let saleCommitment ← terms.commitment H
  .ok ⟨tokenId, saleCommitment, transferReport.tokenCommitment, transferReport.transitionReport⟩

def RgkNftTokenSpec.validateTokenBurnTransition (spec : RgkNftTokenSpec) (t : RgkTransition) :
    Except RgkAssetError RgkNftBurnReport := do
  spec.validate
  let tokenId ← spec.tokenId H
  validateNftBurnTransitionShape spec t tokenId
  let transitionReport ← RgkTransition.validate H t
  let burnedTokenCommitment ← spec.tokenCommitment H
  .ok ⟨tokenId, burnedTokenCommitment, transitionReport⟩

/-- What the acceptance of a mint says. -/
structure AcceptedMint (spec : RgkNftTokenSpec) (issue : RgkAssetIssue) (tokenId : Bytes32)
    (r : RgkIssueReport) : Prop where
  derived : spec.tokenId H = .ok tokenId
  token : IsTokenIssue spec tokenId issue
  owner : issue.ownerCommitment = spec.ownerCommitment
  single : SingleUnit issue.allocations
  valid : RgkAssetIssue.validate H issue = .ok r

/-- What the acceptance of a transfer, or of a sale to its buyer, says. -/
structure AcceptedTransfer (spec : RgkNftTokenSpec) (t : RgkTransition)
    (newOwnerCommitment tokenId : Bytes32) (r : RgkTransitionReport) : Prop where
  derived : spec.tokenId H = .ok tokenId
  token : IsTokenTransition spec tokenId t
  previousOwner : t.previousOwnerCommitment = spec.ownerCommitment
  newOwner : t.newOwnerCommitment = newOwnerCommitment
  burn : t.burn = none
  spent : SingleUnit t.spentAllocations
  new : SingleUnit t.newAllocations
  valid : RgkTransition.validate H t = .ok r

/-- What the acceptance of a token burn says. -/
structure AcceptedBurn (spec : RgkNftTokenSpec) (t : RgkTransition) (tokenId : Bytes32)
    (r : RgkTransitionReport) : Prop where
  derived : spec.tokenId H = .ok tokenId
  token : IsTokenTransition spec tokenId t
  previousOwner : t.previousOwnerCommitment = spec.ownerCommitment
  newOwner : t.newOwnerCommitment = spec.ownerCommitment
  burn : ∃ proof, t.burn = some proof ∧ proof.amount = 1
  spent : SingleUnit t.spentAllocations
  new : t.newAllocations = []
  valid : RgkTransition.validate H t = .ok r

variable {H} {spec : RgkNftTokenSpec}

lemma RgkNftTokenSpec.tokenId_eq_ok {id : Bytes32} :
    spec.tokenId H = .ok id ↔
      spec.validate = .ok () ∧ domainHashStr H "rgk:nft:token-id:v1" spec.tokenIdPayload = id := by
  rw [tokenId, unit_bind_eq_ok, Except.ok.injEq]

lemma validateNftBurnProof_eq_ok {burn : Option RgkBurnProof} :
    validateNftBurnProof burn = .ok () ↔ ∃ proof, burn = some proof ∧ proof.amount = 1 := by
  cases burn with
  | none => simp [validateNftBurnProof]
  | some proof => simp [validateNftBurnProof]

/-- The steps that the validators of a token share, from the derived id to the report. -/
lemma tokenSteps_inv {ρ γ β : Type} {shape : Bytes32 → Except RgkAssetError Unit}
    {native : Except RgkAssetError ρ} {commitment : Except RgkAssetError γ}
    {wrap : Bytes32 → γ → ρ → β} {r : β}
    (h : (do let id ← spec.tokenId H
             shape id
             let report ← native
             let c ← commitment
             .ok (wrap id c report)) = .ok r) :
    ∃ id c report, spec.tokenId H = .ok id ∧ shape id = .ok () ∧ native = .ok report ∧
      wrap id c report = r := by
  obtain ⟨id, hid, h⟩ := bind_eq_ok.mp h
  obtain ⟨hshape, h⟩ := unit_bind_eq_ok.mp h
  obtain ⟨report, hvalid, h⟩ := bind_eq_ok.mp h
  obtain ⟨c, -, h⟩ := bind_eq_ok.mp h
  exact ⟨id, c, report, hid, hshape, hvalid, Except.ok.inj h⟩

theorem RgkNftTokenSpec.validateMintIssue_inv {issue : RgkAssetIssue} {r : RgkNftMintReport}
    (h : spec.validateMintIssue H issue = .ok r) :
    AcceptedMint H spec issue r.tokenId r.issueReport := by
  obtain ⟨-, h⟩ := unit_bind_eq_ok.mp h
  obtain ⟨id, commitment, report, hid, hshape, hvalid, rfl⟩ := tokenSteps_inv h
  simp only [validateNftIssueShape, unit_bind_eq_ok, validateNftIdentity_eq_ok, failIf_eq_ok,
    not_not, validateSingleNftAllocation_eq_ok] at hshape
  obtain ⟨htoken, howner, hsingle⟩ := hshape
  exact ⟨hid, htoken, howner, hsingle, hvalid⟩

theorem RgkNftTokenSpec.validateMintIssue_of_accepted {issue : RgkAssetIssue} {id : Bytes32}
    {r : RgkIssueReport} (h : AcceptedMint H spec issue id r) :
    ∃ q, spec.validateMintIssue H issue = .ok q := by
  obtain ⟨hvalid, hid⟩ := tokenId_eq_ok.mp h.derived
  have howner : validateOwnerCommitment spec.ownerCommitment "nft-token" = .ok () := by
    simp only [RgkNftTokenSpec.validate, unit_bind_eq_ok] at hvalid
    exact hvalid.2.2.2
  have hshape : validateNftIssueShape spec issue id = .ok () := by
    simp only [validateNftIssueShape, unit_bind_eq_ok, validateNftIdentity_eq_ok, failIf_eq_ok,
      not_not, validateSingleNftAllocation_eq_ok]
    exact ⟨h.token, h.owner, h.single⟩
  have hcommitment : ∃ c, spec.tokenCommitment H = .ok c :=
    ⟨_, unit_bind_eq_ok.mpr ⟨howner, bind_eq_ok.mpr ⟨id, h.derived, rfl⟩⟩⟩
  obtain ⟨c, hc⟩ := hcommitment
  refine ⟨⟨id, c, r⟩, unit_bind_eq_ok.mpr ⟨hvalid, bind_eq_ok.mpr ⟨id, h.derived, ?_⟩⟩⟩
  refine unit_bind_eq_ok.mpr ⟨hshape, bind_eq_ok.mpr ⟨r, h.valid, ?_⟩⟩
  exact bind_eq_ok.mpr ⟨c, hc, rfl⟩

theorem RgkNftTokenSpec.validateSingleTokenTransfer_inv {t : RgkTransition} {owner : Bytes32}
    {r : RgkNftTransferReport} (h : spec.validateSingleTokenTransfer H t owner = .ok r) :
    AcceptedTransfer H spec t owner r.tokenId r.transitionReport := by
  obtain ⟨-, h⟩ := unit_bind_eq_ok.mp h
  obtain ⟨-, h⟩ := unit_bind_eq_ok.mp h
  obtain ⟨id, commitment, report, hid, hshape, hvalid, rfl⟩ := tokenSteps_inv h
  simp only [validateNftTransitionShape, unit_bind_eq_ok, validateNftIdentity_eq_ok, failIf_eq_ok,
    not_not, validateSingleNftAllocation_eq_ok, Bool.not_eq_true, Option.isSome_eq_false_iff,
    Option.isNone_iff_eq_none] at hshape
  obtain ⟨htoken, hprevious, hnew, hburn, hspent, hcreated⟩ := hshape
  exact ⟨hid, htoken, hprevious, hnew, hburn, hspent, hcreated, hvalid⟩

theorem RgkNftTokenSpec.validateMarketplaceSaleTransition_inv {t : RgkTransition}
    {terms : RgkNftMarketplaceSaleTerms} {r : RgkNftMarketplaceSaleReport}
    (h : spec.validateMarketplaceSaleTransition H t terms = .ok r) :
    AcceptedTransfer H spec t terms.buyerOwnerCommitment r.tokenId r.transitionReport := by
  obtain ⟨-, h⟩ := unit_bind_eq_ok.mp h
  obtain ⟨id, hid, h⟩ := bind_eq_ok.mp h
  obtain ⟨-, h⟩ := unit_bind_eq_ok.mp h
  obtain ⟨-, h⟩ := unit_bind_eq_ok.mp h
  obtain ⟨transfer, htransfer, h⟩ := bind_eq_ok.mp h
  obtain ⟨commitment, -, h⟩ := bind_eq_ok.mp h
  obtain rfl := Except.ok.inj h
  have haccepted := validateSingleTokenTransfer_inv htransfer
  have hsame : transfer.tokenId = id := Except.ok.inj (haccepted.derived.symm.trans hid)
  exact hsame ▸ haccepted

theorem RgkNftTokenSpec.validateTokenBurnTransition_inv {t : RgkTransition} {r : RgkNftBurnReport}
    (h : spec.validateTokenBurnTransition H t = .ok r) :
    AcceptedBurn H spec t r.tokenId r.transitionReport := by
  obtain ⟨-, h⟩ := unit_bind_eq_ok.mp h
  obtain ⟨id, commitment, report, hid, hshape, hvalid, rfl⟩ := tokenSteps_inv h
  simp only [validateNftBurnTransitionShape, unit_bind_eq_ok, validateNftIdentity_eq_ok,
    failIf_eq_ok, not_not, validateNftBurnProof_eq_ok, validateSingleNftAllocation_eq_ok,
    validateEmptyNftAllocations_eq_ok] at hshape
  obtain ⟨htoken, hprevious, hnew, hburn, hspent, hcreated⟩ := hshape
  exact ⟨hid, htoken, hprevious, hnew, hburn, hspent, hcreated, hvalid⟩

end Validators
end RgkProtocol.NftValidation
