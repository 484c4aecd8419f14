import RgkProtocol.NftValidation
import Mathlib.Data.Set.Card

/-!
# The supply of a collection

A collection id is derived from the collection's whole material, its maximum supply included. No
validator derives it again, so a spec can name the id next to any other material, and its tokens
can be minted.
-/
namespace RgkProtocol.NftSupply
open ByteStrings Hashing CoreTypes Checked AssetTypes AssetEncoding AssetValidation NftValidation

section Supply
variable (H : List UInt8 → Bytes32)

/-- A spec for which some issue passes as its mint. -/
def Mintable (spec : RgkNftTokenSpec) : Prop :=
  ∃ issue r, spec.validateMintIssue H issue = .ok r

/-- The ids of the tokens that can be minted under a collection id. -/
def mintableTokenIds (collectionId : Bytes32) : Set Bytes32 :=
  {x | ∃ spec : RgkNftTokenSpec, spec.collection.collectionId = collectionId ∧ Mintable H spec ∧
    spec.tokenId H = .ok x}

/-- The spec states the material that the collection id was derived from. -/
structure AgreesWith (material : RgkNftCollectionIdDerivation) (spec : RgkNftTokenSpec) : Prop where
  maxSupply : spec.collection.maxSupply = material.maxSupply
  templateCommitment : spec.collection.templateCommitment = material.templateCommitment
  royaltyPolicyCommitment :
    spec.collection.royaltyPolicyCommitment = material.royaltyPolicyCommitment
  issuerOwnerCommitment : spec.collection.issuerOwnerCommitment = material.issuerOwnerCommitment

/-- A collection never has more tokens than its material says, nor tokens of other material. -/
structure FixedSupply (material : RgkNftCollectionIdDerivation) (collectionId : Bytes32) :
    Prop where
  atMost : (mintableTokenIds H collectionId).encard ≤ material.maxSupply.toNat
  agree : ∀ spec : RgkNftTokenSpec, spec.collection.collectionId = collectionId →
    Mintable H spec → AgreesWith material spec

end Supply

section Minting
variable {H : List UInt8 → Bytes32}

/-- An allocation of the one unit on a given chain. -/
def unitAllocation (chain : KaspaChainId) : RgkAllocation :=
  ⟨⟨chain, ⟨Bytes.fill 32 1, 0⟩, Bytes.fill 32 0x33, Bytes.fill 32 1, 100, 10⟩, 1,
    Bytes.fill 32 0x44⟩

/-- The plainest mint of a spec. -/
def mintOf (spec : RgkNftTokenSpec) (tokenId : Bytes32) : RgkAssetIssue :=
  { chain := spec.collection.chain, schemaId := spec.collection.schemaId, assetId := tokenId,
    totalSupply := 1, metadataCommitment := spec.metadataCommitment,
    ownerCommitment := spec.ownerCommitment, allocations := [unitAllocation spec.collection.chain],
    laneId := Bytes.fill 32 0x77, privacyPolicy := .privateLane,
    proofPolicy := .verifierReceipt (Bytes.fill 32 0x91) }

lemma unitAllocation_exact (chain : KaspaChainId) :
    validateAllocationSetExact chain 1 [unitAllocation chain] = .ok () := by
  cases chain <;> decide +kernel

lemma spec_validate_eq_ok {spec : RgkNftTokenSpec} :
    spec.validate = .ok () ↔
      (spec.collection.schemaId ≠ Bytes.zero ∧ spec.collection.maxSupply ≠ 0 ∧
        spec.collection.issuerOwnerCommitment ≠ Bytes.zero ∧
        spec.collection.templateCommitment ≠ Bytes.zero ∧
        spec.collection.royaltyPolicyCommitment ≠ Bytes.zero) ∧
      spec.collection.collectionId ≠ Bytes.zero ∧ spec.tokenIndex < spec.collection.maxSupply ∧
      spec.metadataCommitment ≠ Bytes.zero ∧ spec.ownerCommitment ≠ Bytes.zero := by
  simp only [RgkNftTokenSpec.validate, RgkNftCollectionPolicy.validate,
    validateNftCollectionMaterial, validateMetadataCommitment, validateOwnerCommitment,
    unit_bind_eq_ok, rejectZero_eq_ok, failIf_eq_ok, ge_iff_le, UInt64.not_le, and_assoc]

theorem mintable_iff {spec : RgkNftTokenSpec} :
    Mintable H spec ↔ ∃ id, spec.tokenId H = .ok id ∧ id ≠ Bytes.zero := by
  constructor
  · rintro ⟨issue, r, h⟩
    have hm := spec.validateMintIssue_inv h
    have hstructure := (unit_bind_eq_ok.mp hm.valid).1
    obtain ⟨-, hasset, -⟩ := validateCommon_eq_ok.mp (unit_bind_eq_ok.mp hstructure).1
    exact ⟨r.tokenId, hm.derived, hm.token.assetId ▸ hasset⟩
  · rintro ⟨id, hid, hne⟩
    have hvalid := spec_validate_eq_ok.mp (RgkNftTokenSpec.tokenId_eq_ok.mp hid).1
    obtain ⟨⟨hschema, -⟩, -, -, hmetadata, howner⟩ := hvalid
    have hstructure : RgkAssetIssue.validateStructure (mintOf spec id) = .ok () := by
      simp only [RgkAssetIssue.validateStructure, validateCommon, validateMetadataCommitment,
        validateOwnerCommitment, validatePolicy, mintOf, unit_bind_eq_ok, rejectZero_eq_ok]
      exact ⟨⟨hschema, hne, rfl, by decide, by decide⟩, hmetadata, howner,
        unitAllocation_exact _⟩
    obtain ⟨r, hissue⟩ := RgkAssetIssue.validate_of_structure hstructure
    have haccepted : AcceptedMint H spec (mintOf spec id) id r :=
      ⟨hid, ⟨rfl, rfl, rfl, rfl, rfl⟩, rfl, ⟨_, rfl, rfl⟩, hissue⟩
    exact ⟨mintOf spec id, spec.validateMintIssue_of_accepted haccepted⟩

end Minting

section Substitution
variable {H : List UInt8 → Bytes32}

/-- A commitment that is neither zero nor `c`. -/
def otherThan (c : Bytes32) : Bytes32 := if c = Bytes.fill 32 1 then Bytes.fill 32 2 else Bytes.fill 32 1

lemma otherThan_ne (c : Bytes32) : otherThan c ≠ c ∧ otherThan c ≠ Bytes.zero := by
  have h12 : (Bytes.fill 32 2 : Bytes32) ≠ Bytes.fill 32 1 := by decide
  by_cases hc : c = Bytes.fill 32 1
  · rw [otherThan, if_pos hc, hc]
    exact ⟨h12, by decide⟩
  · rw [otherThan, if_neg hc]
    exact ⟨fun h => hc h.symm, by decide⟩

/-- The first token of a collection under the id `collectionId`, with a template of its own. -/
def substitute (material : RgkNftCollectionIdDerivation) (collectionId metadata : Bytes32) :
    RgkNftTokenSpec :=
  { collection :=
      { chain := material.chain, schemaId := material.schemaId, collectionId := collectionId,
        maxSupply := material.maxSupply, issuerOwnerCommitment := material.issuerOwnerCommitment,
        templateCommitment := otherThan material.templateCommitment,
        royaltyPolicyCommitment := material.royaltyPolicyCommitment },
    tokenIndex := 0, metadataCommitment := metadata,
    ownerCommitment := material.issuerOwnerCommitment }

/-- The strings hashed for the ids of two such tokens. -/
def substitutePreimages (material : RgkNftCollectionIdDerivation) (collectionId : Bytes32) :
    List (List UInt8) :=
  [Bytes.fill 32 1, Bytes.fill 32 2].map (fun metadata => taggedPreimage "rgk:nft:token-id:v1"
    (substitute material collectionId metadata).tokenIdPayload)

lemma substitute_tokenId {material : RgkNftCollectionIdDerivation} {id metadata : Bytes32}
    (hderive : deriveCollectionId H material = .ok id) (hid : id ≠ Bytes.zero)
    (hmetadata : metadata ≠ Bytes.zero) :
    (substitute material id metadata).tokenId H =
      .ok (domainHashStr H "rgk:nft:token-id:v1" (substitute material id metadata).tokenIdPayload) := by
  simp only [deriveCollectionId, validateNftCollectionMaterial, validateOwnerCommitment,
    unit_bind_eq_ok, rejectZero_eq_ok, failIf_eq_ok] at hderive
  obtain ⟨⟨hschema, hsupply, hissuer, htemplate, hroyalty⟩, -⟩ := hderive
  have hpositive : 0 < material.maxSupply := UInt64.pos_iff_ne_zero.mpr hsupply
  refine RgkNftTokenSpec.tokenId_eq_ok.mpr ⟨spec_validate_eq_ok.mpr ?_, rfl⟩
  exact ⟨⟨hschema, hsupply, hissuer, (otherThan_ne _).2, hroyalty⟩, hid, hpositive, hmetadata,
    hissuer⟩

/-- Under any derived collection id a token with another template can be minted. -/
lemma substitute_mintable {material : RgkNftCollectionIdDerivation} {id : Bytes32}
    (hderive : deriveCollectionId H material = .ok id) (hid : id ≠ Bytes.zero)
    (hcf : CollisionFree H {x | x ∈ substitutePreimages material id}) :
    ∃ metadata, Mintable H (substitute material id metadata) := by
  have h1 := substitute_tokenId hderive hid (show (Bytes.fill 32 1 : Bytes32) ≠ Bytes.zero by decide)
  have h2 := substitute_tokenId hderive hid (show (Bytes.fill 32 2 : Bytes32) ≠ Bytes.zero by decide)
  -- Two different strings cannot both hash to zero.
  by_contra hnone
  push Not at hnone
  have hz1 := fun hne => hnone _ (mintable_iff.mpr ⟨_, h1, hne⟩)
  have hz2 := fun hne => hnone _ (mintable_iff.mpr ⟨_, h2, hne⟩)
  have heq := (not_not.mp hz1).trans (not_not.mp hz2).symm
  have hpayload := payload_eq_of_domainHashStr_eq hcf (by simp [substitutePreimages])
    (by simp [substitutePreimages]) heq
  simp only [RgkNftTokenSpec.tokenIdPayload, substitute, Bytes.append_inj, le64_append_inj,
    Bytes.toList_inj, true_and] at hpayload
  exact absurd hpayload (by decide)

end Substitution

/-- The supply of a collection is never fixed, unless its id is the zero string, with which no spec
validates. -/
theorem collection_supply_fixed_iff (H : List UInt8 → Bytes32)
    (material : RgkNftCollectionIdDerivation) (id : Bytes32)
    (hderive : deriveCollectionId H material = .ok id)
    (hcf : CollisionFree H {x | x ∈ substitutePreimages material id}) :
    FixedSupply H material id ↔ id = Bytes.zero := by
  constructor
  · intro hfixed
    by_contra hid
    obtain ⟨metadata, hmint⟩ := substitute_mintable hderive hid hcf
    exact (otherThan_ne _).1 (hfixed.agree _ rfl hmint).templateCommitment
  · rintro rfl
    have hnone : ∀ spec : RgkNftTokenSpec, spec.collection.collectionId = Bytes.zero →
        ¬Mintable H spec := by
      intro spec hzero hmint
      obtain ⟨id, hid, -⟩ := mintable_iff.mp hmint
      exact (spec_validate_eq_ok.mp (RgkNftTokenSpec.tokenId_eq_ok.mp hid).1).2.1 hzero
    refine ⟨?_, fun spec hspec hmint => (hnone spec hspec hmint).elim⟩
    have hempty : mintableTokenIds H Bytes.zero = ∅ :=
      Set.eq_empty_iff_forall_notMem.mpr (fun x hx => hnone _ hx.choose_spec.1 hx.choose_spec.2.1)
    rw [hempty, Set.encard_empty]
    exact zero_le

section Samples

/-- A collection of a single token. -/
def sampleMaterial : RgkNftCollectionIdDerivation :=
  ⟨.kaspaLocalToccata, Bytes.fill 32 0x11, 1, Bytes.fill 32 0x13, Bytes.fill 32 0xa1,
    Bytes.fill 32 0xa2⟩

def sampleCollectionId : Bytes32 :=
  domainHashStr Sha256.digest "rgk:nft:collection-id:v1" (collectionIdPayload sampleMaterial)

lemma sampleCollectionId_derived :
    deriveCollectionId Sha256.digest sampleMaterial = .ok sampleCollectionId :=
  unit_bind_eq_ok.mpr ⟨by decide, rfl⟩

/-- A token of the sample collection as it was set up. -/
def sampleToken (metadata : Bytes32) : RgkNftTokenSpec :=
  { collection := ⟨sampleMaterial.chain, sampleMaterial.schemaId, sampleCollectionId,
      sampleMaterial.maxSupply, sampleMaterial.issuerOwnerCommitment,
      sampleMaterial.templateCommitment, sampleMaterial.royaltyPolicyCommitment⟩,
    tokenIndex := 0, metadataCommitment := metadata, ownerCommitment := Bytes.fill 32 0xb1 }

/-- A token that names the sample collection and states a material of its own. -/
def foreignToken : RgkNftTokenSpec :=
  { collection := ⟨sampleMaterial.chain, sampleMaterial.schemaId, sampleCollectionId, 1000,
      Bytes.fill 32 0x14, Bytes.fill 32 0xd1, Bytes.fill 32 0xd2⟩,
    tokenIndex := 999, metadataCommitment := Bytes.fill 32 0xa3,
    ownerCommitment := Bytes.fill 32 0xb1 }

def sampleTokens : List RgkNftTokenSpec :=
  [sampleToken (Bytes.fill 32 0xa3), sampleToken (Bytes.fill 32 0xa4), foreignToken]

/-- The strings hashed for the collection id and the three token ids. -/
def sampleStrings : List (List UInt8) :=
  taggedPreimage "rgk:nft:collection-id:v1" (collectionIdPayload sampleMaterial) ::
    sampleTokens.map (fun spec => taggedPreimage "rgk:nft:token-id:v1" spec.tokenIdPayload)

lemma sampleStrings_digests : (Bytes.zero :: sampleStrings.map Sha256.digest).Nodup := by
  decide +kernel

lemma sampleTokens_valid : ∀ spec ∈ sampleTokens, spec.validate = .ok () := by
  decide +kernel

lemma sampleTokens_tokenId {spec : RgkNftTokenSpec} (hspec : spec ∈ sampleTokens) :
    spec.tokenId Sha256.digest =
      .ok (domainHashStr Sha256.digest "rgk:nft:token-id:v1" spec.tokenIdPayload) :=
  RgkNftTokenSpec.tokenId_eq_ok.mpr ⟨sampleTokens_valid spec hspec, rfl⟩

lemma sampleTokens_mintable {spec : RgkNftTokenSpec} (hspec : spec ∈ sampleTokens) :
    Mintable Sha256.digest spec := by
  refine mintable_iff.mpr ⟨_, sampleTokens_tokenId hspec, ?_⟩
  intro hzero
  apply (List.nodup_cons.mp sampleStrings_digests).1
  rw [← hzero]
  exact List.mem_map_of_mem (List.mem_cons_of_mem _ (List.mem_map_of_mem hspec))

end Samples

theorem collection_supply_fixed_iff_sample :
    FixedSupply Sha256.digest sampleMaterial sampleCollectionId ↔ sampleCollectionId = Bytes.zero :=
  collection_supply_fixed_iff _ _ _ sampleCollectionId_derived (.of_nodup (by decide +kernel))

/-- A collection of one token: two can be minted from its own material, and a third one as number
999 of a thousand, with another issuer, template and royalty policy. -/
theorem collection_oversold :
    deriveCollectionId Sha256.digest sampleMaterial = .ok sampleCollectionId ∧
      CollisionFree Sha256.digest {x | x ∈ sampleStrings} ∧ sampleMaterial.maxSupply = 1 ∧
      1 < (mintableTokenIds Sha256.digest sampleCollectionId).encard ∧
      ∃ spec : RgkNftTokenSpec, spec.collection.collectionId = sampleCollectionId ∧
        Mintable Sha256.digest spec ∧
        spec.collection.maxSupply ≠ sampleMaterial.maxSupply ∧
        spec.collection.templateCommitment ≠ sampleMaterial.templateCommitment ∧
        spec.collection.royaltyPolicyCommitment ≠ sampleMaterial.royaltyPolicyCommitment ∧
        spec.collection.issuerOwnerCommitment ≠ sampleMaterial.issuerOwnerCommitment := by
  have hcf : CollisionFree Sha256.digest {x | x ∈ sampleStrings} :=
    .of_nodup (List.nodup_cons.mp sampleStrings_digests).2
  refine ⟨sampleCollectionId_derived, hcf, rfl, ?_, foreignToken, rfl,
    sampleTokens_mintable (by simp [sampleTokens]), by decide, by decide, by decide, by decide⟩
  have hmem : ∀ metadata, sampleToken metadata ∈ sampleTokens →
      domainHashStr Sha256.digest "rgk:nft:token-id:v1" (sampleToken metadata).tokenIdPayload ∈
        mintableTokenIds Sha256.digest sampleCollectionId :=
    fun metadata h => ⟨_, rfl, sampleTokens_mintable h, sampleTokens_tokenId h⟩
  refine Set.one_lt_encard_iff.mpr ⟨_, _, hmem (Bytes.fill 32 0xa3) (by simp [sampleTokens]),
    hmem (Bytes.fill 32 0xa4) (by simp [sampleTokens]), fun heq => ?_⟩
  have hpayload := payload_eq_of_domainHashStr_eq hcf
    (by simp [sampleStrings, sampleTokens]) (by simp [sampleStrings, sampleTokens]) heq
  simp only [RgkNftTokenSpec.tokenIdPayload, sampleToken, Bytes.append_inj, le64_append_inj,
    Bytes.toList_inj, true_and] at hpayload
  exact absurd hpayload (by decide)

end RgkProtocol.NftSupply
