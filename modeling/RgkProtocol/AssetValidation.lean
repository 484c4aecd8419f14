import RgkProtocol.AssetEncoding

/-!
# Native validation of issues, transitions and continuation plans

The structural validators with their errors in source order. Each check has one lemma that
says exactly what its success means; the reports are what the rest of the system links.
-/
namespace RgkProtocol.AssetValidation
open ByteStrings Hashing CoreTypes Checked AssetTypes AssetEncoding

def rejectZero (bytes : Bytes32) (error : RgkAssetError) : Except RgkAssetError Unit :=
  failIf (bytes.isZero = true) error

@[simp] lemma rejectZero_eq_ok {b : Bytes32} {e : RgkAssetError} {u : Unit} :
    rejectZero b e = .ok u ↔ b ≠ Bytes.zero := by
  rw [rejectZero, failIf_eq_ok, Bytes.isZero_iff]

section Policy

def validateImageIdPolicy : ImageIdPolicy → Except RgkAssetError Unit
  | .fixed imageId => rejectZero imageId .unconstrainedImageId
  | .allowedSet set => do
      failIf (set = []) .unconstrainedImageId
      forEnum (fun _ imageId => rejectZero imageId .unconstrainedImageId) 0 set
  | .policyBranch branch => rejectZero branch .unconstrainedImageId

def validatePolicy : RgkProofPolicy → Except RgkAssetError Unit
  | .verifierReceipt verifierKeyHash => rejectZero verifierKeyHash .zeroVerifierKey
  | .zkReceipt verifierKeyId imageIdPolicy => do
      rejectZero verifierKeyId .zeroVerifierKey
      validateImageIdPolicy imageIdPolicy
  | .hybrid verifierKeyHash verifierKeyId => do
      rejectZero verifierKeyHash .zeroVerifierKey
      rejectZero verifierKeyId .zeroVerifierKey

def policyCommitment (H : List UInt8 → Bytes32) (p : RgkProofPolicy) :
    Except RgkAssetError Bytes32 := do
  validatePolicy p
  .ok (policyCommitmentBytes H p)

lemma policyCommitment_eq_ok {H : List UInt8 → Bytes32} {p : RgkProofPolicy} {c : Bytes32} :
    policyCommitment H p = .ok c ↔ validatePolicy p = .ok () ∧ c = policyCommitmentBytes H p := by
  rw [policyCommitment, unit_bind_eq_ok, Except.ok.injEq]
  exact and_congr_right (fun _ => eq_comm)

end Policy

section Common

def validateCommon (schemaId assetId : Bytes32) (totalSupply : UInt64) (laneId : Bytes32)
    (proofPolicy : RgkProofPolicy) : Except RgkAssetError Unit := do
  rejectZero schemaId .zeroSchemaId
  rejectZero assetId .zeroAssetId
  failIf (totalSupply = 0) .zeroTotalSupply
  rejectZero laneId .zeroLaneId
  validatePolicy proofPolicy

def validateMetadataCommitment (c : Bytes32) : Except RgkAssetError Unit :=
  rejectZero c .zeroMetadataCommitment

def validateOwnerCommitment (c : Bytes32) (role : String) : Except RgkAssetError Unit :=
  rejectZero c (.zeroOwnerCommitment role)

def validateOwnershipHandoff (previous new authorization : Bytes32) : Except RgkAssetError Unit :=
  failIf (previous ≠ new ∧ authorization.isZero = true) .zeroOwnershipAuthorization

lemma validateCommon_eq_ok {schemaId assetId : Bytes32} {totalSupply : UInt64} {laneId : Bytes32}
    {proofPolicy : RgkProofPolicy} :
    validateCommon schemaId assetId totalSupply laneId proofPolicy = .ok () ↔
      schemaId ≠ Bytes.zero ∧ assetId ≠ Bytes.zero ∧ totalSupply ≠ 0 ∧ laneId ≠ Bytes.zero ∧
        validatePolicy proofPolicy = .ok () := by
  simp only [validateCommon, unit_bind_eq_ok, rejectZero_eq_ok, failIf_eq_ok, ne_eq]

lemma validateOwnershipHandoff_eq_ok {previous new authorization : Bytes32} :
    validateOwnershipHandoff previous new authorization = .ok () ↔
      previous = new ∨ authorization ≠ Bytes.zero := by
  rw [validateOwnershipHandoff, failIf_eq_ok, Bytes.isZero_iff, not_and_or, not_not]

lemma policyCommitment_of_common {H : List UInt8 → Bytes32} {schemaId assetId : Bytes32}
    {totalSupply : UInt64} {laneId : Bytes32} {proofPolicy : RgkProofPolicy}
    (h : validateCommon schemaId assetId totalSupply laneId proofPolicy = .ok ()) :
    policyCommitment H proofPolicy = .ok (policyCommitmentBytes H proofPolicy) := by
  obtain ⟨-, -, -, -, hpolicy⟩ := validateCommon_eq_ok.mp h
  exact policyCommitment_eq_ok.mpr ⟨hpolicy, rfl⟩

end Common

section AllocationSets

def checkAllocation (chain : KaspaChainId) (index : ℕ) (a : RgkAllocation) :
    Except RgkAssetError Unit := do
  failIf (a.amount = 0) (.zeroAllocationAmount index)
  failIf (a.anchor.chain ≠ chain) (.chainMismatch index chain a.anchor.chain)
  failIf (a.anchor.covenantOutpoint = KaspaOutpoint.null) (.nullCovenantOutpoint index)
  rejectZero a.anchor.covenantId (.zeroCovenantId index)
  rejectZero a.anchor.witnessTxid (.zeroWitnessTxid index)
  rejectZero a.encryptedNoteCommitment (.zeroEncryptedNote index)
  failIf (a.anchor.confirmationDepth = 0) (.unconfirmedAnchor index)

/-- An allocation that stands confirmed on `chain`, with no empty field. -/
structure AllocationOk (chain : KaspaChainId) (a : RgkAllocation) : Prop where
  amount : a.amount ≠ 0
  chain : a.anchor.chain = chain
  outpoint : a.outpoint ≠ KaspaOutpoint.null
  covenantId : a.anchor.covenantId ≠ Bytes.zero
  witnessTxid : a.anchor.witnessTxid ≠ Bytes.zero
  note : a.encryptedNoteCommitment ≠ Bytes.zero
  depth : a.anchor.confirmationDepth ≠ 0

lemma checkAllocation_eq_ok (chain : KaspaChainId) (index : ℕ) (a : RgkAllocation) :
    checkAllocation chain index a = .ok () ↔ AllocationOk chain a := by
  simp only [checkAllocation, unit_bind_eq_ok, failIf_eq_ok, rejectZero_eq_ok, not_not]
  constructor
  · rintro ⟨ha, hc, ho, hv, hw, hn, hd⟩
    exact ⟨ha, hc, ho, hv, hw, hn, hd⟩
  · rintro ⟨ha, hc, ho, hv, hw, hn, hd⟩
    exact ⟨ha, hc, ho, hv, hw, hn, hd⟩

def validateAllocationSetStructureAllowEmpty (chain : KaspaChainId) (as : List RgkAllocation) :
    Except RgkAssetError UInt64 :=
  sumDistinct (checkAllocation chain) RgkAllocation.outpoint .duplicateAnchorOutpoint
    RgkAllocation.amount .supplyOverflow 0 [] 0 as

def validateAllocationSetStructure (chain : KaspaChainId) (as : List RgkAllocation) :
    Except RgkAssetError UInt64 := do
  failIf (as = []) .emptyAllocations
  validateAllocationSetStructureAllowEmpty chain as

def validateAllocationSetExact (chain : KaspaChainId) (totalSupply : UInt64)
    (as : List RgkAllocation) : Except RgkAssetError Unit := do
  let total ← validateAllocationSetStructure chain as
  failIf (total ≠ totalSupply) (.supplyMismatch totalSupply total)

/-- Sum of the amounts as a natural number. -/
abbrev supplyOf (as : List RgkAllocation) : ℕ := natSum RgkAllocation.amount as

/-- A set of good allocations in pairwise distinct outputs that adds up to `supply`. -/
structure IsAllocationSet (chain : KaspaChainId) (as : List RgkAllocation) (supply : UInt64) :
    Prop where
  each : ∀ a ∈ as, AllocationOk chain a
  distinct : (as.map RgkAllocation.outpoint).Nodup
  sum : supply.toNat = supplyOf as

theorem validateAllocationSetStructureAllowEmpty_eq_ok {chain : KaspaChainId}
    {as : List RgkAllocation} {supply : UInt64} :
    validateAllocationSetStructureAllowEmpty chain as = .ok supply ↔
      IsAllocationSet chain as supply := by
  rw [validateAllocationSetStructureAllowEmpty, sumDistinct_eq_ok (checkAllocation_eq_ok chain)]
  constructor
  · rintro ⟨he, hd, -, hs⟩
    exact ⟨he, hd, by simpa using hs⟩
  · rintro ⟨he, hd, hs⟩
    exact ⟨he, hd, by simp, by simpa using hs⟩

theorem validateAllocationSetStructure_eq_ok {chain : KaspaChainId} {as : List RgkAllocation}
    {supply : UInt64} :
    validateAllocationSetStructure chain as = .ok supply ↔
      as ≠ [] ∧ IsAllocationSet chain as supply := by
  rw [validateAllocationSetStructure, unit_bind_eq_ok, failIf_eq_ok,
    validateAllocationSetStructureAllowEmpty_eq_ok]

namespace IsAllocationSet
variable {chain : KaspaChainId} {as : List RgkAllocation} {supply : UInt64}

lemma length_le (hset : IsAllocationSet chain as supply) : as.length ≤ supply.toNat := by
  rw [hset.sum, supplyOf, natSum, ← List.length_map (fun a : RgkAllocation => a.amount.toNat)]
  apply List.length_le_sum_of_one_le
  intro n hn
  obtain ⟨a, ha, rfl⟩ := List.mem_map.mp hn
  exact Nat.one_le_iff_ne_zero.mpr (fun hz => (hset.each a ha).amount (UInt64.toNat_inj.mp hz))

lemma length_lt (hset : IsAllocationSet chain as supply) : as.length < 2^64 :=
  lt_of_le_of_lt hset.length_le supply.toNat_lt

lemma toNat_length (hset : IsAllocationSet chain as supply) :
    (UInt64.ofNat as.length).toNat = as.length :=
  UInt64.toNat_ofNat_of_lt' hset.length_lt

lemma ne_zero (hset : IsAllocationSet chain as supply) (hne : as.length ≠ 0) :
    UInt64.ofNat as.length ≠ 0 ∧ supply ≠ 0 := by
  have hcount := hset.toNat_length
  have hle := hset.length_le
  constructor
  · intro hz
    rw [hz, UInt64.toNat_zero] at hcount
    exact hne hcount.symm
  · rintro rfl
    rw [UInt64.toNat_zero] at hle
    omega

lemma length_ne_zero (hset : IsAllocationSet chain as supply) (hne : supply ≠ 0) :
    as.length ≠ 0 := by
  intro hlen
  obtain rfl := List.length_eq_zero_iff.mp hlen
  exact hne (UInt64.toNat_inj.mp hset.sum)

end IsAllocationSet

end AllocationSets

section Supply

def validateSupplyDelta (spentSupply newSupply : UInt64) (burn : Option RgkBurnProof) :
    Except RgkAssetError UInt64 := do
  failIf (newSupply > spentSupply) (.supplyInflation spentSupply newSupply)
  let burned := spentSupply - newSupply
  match burn with
  | none =>
      failIf (burned ≠ 0) (.supplyDeflationWithoutBurn spentSupply newSupply)
      .ok 0
  | some proof =>
      failIf (proof.amount = 0) .zeroBurnAmount
      failIf (burned = 0) (.burnAmountMismatch 0 proof.amount)
      rejectZero proof.authorizationCommitment .zeroBurnAuthorization
      failIf (proof.amount ≠ burned) (.burnAmountMismatch burned proof.amount)
      .ok burned

/-- What a burn proof must say about the supply that disappears. -/
def BurnAccounts (burned : UInt64) : Option RgkBurnProof → Prop
  | none => burned = 0
  | some proof =>
      burned ≠ 0 ∧ proof.amount = burned ∧ proof.authorizationCommitment ≠ Bytes.zero

lemma BurnAccounts.zero_iff {burned : UInt64} {burn : Option RgkBurnProof}
    (h : BurnAccounts burned burn) :
    burned = 0 ↔ burnAuthorizationCommitment burn = Bytes.zero := by
  cases burn with
  | none => exact iff_of_true h rfl
  | some proof => exact iff_of_false h.1 h.2.2

theorem validateSupplyDelta_eq_ok {spent new burned : UInt64} {burn : Option RgkBurnProof} :
    validateSupplyDelta spent new burn = .ok burned ↔
      spent.toNat = new.toNat + burned.toNat ∧ BurnAccounts burned burn := by
  have hsub : ¬spent < new → (spent-new).toNat = spent.toNat - new.toNat := fun h =>
    UInt64.toNat_sub_of_le _ _ (UInt64.not_lt.mp h)
  have hle : ¬spent < new ↔ new.toNat ≤ spent.toNat := by
    rw [UInt64.not_lt, UInt64.le_iff_toNat_le]
  cases burn with
  | none =>
    simp only [validateSupplyDelta, unit_bind_eq_ok, failIf_eq_ok, BurnAccounts, not_not,
      Except.ok.injEq, gt_iff_lt]
    constructor
    · rintro ⟨hlt, hz, rfl⟩
      have hh := hsub hlt
      have hn := hle.mp hlt
      rw [hz] at hh
      simp only [UInt64.toNat_zero] at hh ⊢
      exact ⟨by omega, trivial⟩
    · rintro ⟨hs, rfl⟩
      have hlt : ¬spent < new := hle.mpr (by omega)
      refine ⟨hlt, ?_, rfl⟩
      apply UInt64.toNat_inj.mp
      rw [hsub hlt, hs]
      simp
  | some proof =>
    simp only [validateSupplyDelta, unit_bind_eq_ok, failIf_eq_ok, rejectZero_eq_ok, BurnAccounts,
      not_not, Except.ok.injEq, gt_iff_lt]
    constructor
    · rintro ⟨hlt, -, hz, ha, hm, rfl⟩
      have hh := hsub hlt
      have hn := hle.mp hlt
      exact ⟨by omega, hz, hm, ha⟩
    · rintro ⟨hs, hz, hm, ha⟩
      have hlt : ¬spent < new := hle.mpr (by omega)
      have he : spent - new = burned := by
        apply UInt64.toNat_inj.mp
        rw [hsub hlt, hs]
        omega
      exact ⟨hlt, hm ▸ hz, he ▸ hz, ha, hm.trans he.symm, he⟩

end Supply

section Issue
variable (H : List UInt8 → Bytes32)

def RgkAssetIssue.validateStructure (i : RgkAssetIssue) : Except RgkAssetError Unit := do
  validateCommon i.schemaId i.assetId i.totalSupply i.laneId i.proofPolicy
  validateMetadataCommitment i.metadataCommitment
  validateOwnerCommitment i.ownerCommitment "issue"
  validateAllocationSetExact i.chain i.totalSupply i.allocations

/-- What the issue's state digest is computed from. -/
def RgkAssetIssue.stateInput (i : RgkAssetIssue) : RgkStateDigestInput :=
  { assetId := i.assetId, totalSupply := i.totalSupply, allocations := i.allocations,
    laneId := i.laneId, privacyPolicy := i.privacyPolicy,
    policyCommitment := policyCommitmentBytes H i.proofPolicy,
    metadataCommitment := i.metadataCommitment, ownerCommitment := i.ownerCommitment }

def RgkAssetIssue.reportUnchecked (i : RgkAssetIssue) : Except RgkAssetError RgkIssueReport := do
  let policyCommitment ← policyCommitment H i.proofPolicy
  .ok { chain := i.chain, schemaId := i.schemaId, assetId := i.assetId,
        totalSupply := i.totalSupply, metadataCommitment := i.metadataCommitment,
        ownerCommitment := i.ownerCommitment, allocationCount := i.allocations.length,
        laneId := i.laneId, privacyPolicy := i.privacyPolicy,
        policyCommitment := policyCommitment,
        stateDigest := stateDigestForAllocations H
          { RgkAssetIssue.stateInput H i with policyCommitment := policyCommitment } }

def RgkAssetIssue.validate (i : RgkAssetIssue) : Except RgkAssetError RgkIssueReport := do
  RgkAssetIssue.validateStructure i
  RgkAssetIssue.reportUnchecked H i

variable {H}

/-- A validated issue allocates exactly its total supply and reports its own state digest. -/
theorem RgkAssetIssue.validate_inv {i : RgkAssetIssue} {r : RgkIssueReport}
    (h : RgkAssetIssue.validate H i = .ok r) :
    IsAllocationSet i.chain i.allocations i.totalSupply ∧
      r.stateDigest = stateDigestForAllocations H (RgkAssetIssue.stateInput H i) := by
  simp only [validate, validateStructure, validateAllocationSetExact, unit_bind_eq_ok] at h
  obtain ⟨⟨-, -, -, hset⟩, hrep⟩ := h
  obtain ⟨total, htot, hs⟩ := bind_eq_ok.mp hset
  have hts : total = i.totalSupply := by simpa using hs
  have hall := (validateAllocationSetStructure_eq_ok.mp htot).2
  obtain ⟨pc, hpc, hr⟩ := bind_eq_ok.mp hrep
  have hp := (policyCommitment_eq_ok.mp hpc).2
  refine ⟨hts ▸ hall, ?_⟩
  rw [← Except.ok.inj hr, hp]
  rfl

lemma RgkAssetIssue.validate_of_structure {i : RgkAssetIssue}
    (h : RgkAssetIssue.validateStructure i = .ok ()) : ∃ r, RgkAssetIssue.validate H i = .ok r := by
  have hcommon := (unit_bind_eq_ok.mp h).1
  exact ⟨_, unit_bind_eq_ok.mpr ⟨h, bind_eq_ok.mpr ⟨_, policyCommitment_of_common hcommon, rfl⟩⟩⟩

end Issue

section Transition
variable (H : List UInt8 → Bytes32)

/-- What the digest of the state that a transition consumes is computed from. -/
def RgkTransition.previousInput (t : RgkTransition) (policyCommitment : Bytes32) :
    RgkStateDigestInput :=
  { assetId := t.assetId, totalSupply := t.totalSupply, allocations := t.spentAllocations,
    laneId := t.laneId, privacyPolicy := t.privacyPolicy, policyCommitment := policyCommitment,
    metadataCommitment := t.metadataCommitment, ownerCommitment := t.previousOwnerCommitment }

def RgkTransition.newInput (t : RgkTransition) (policyCommitment : Bytes32) : RgkStateDigestInput :=
  { assetId := t.assetId, totalSupply := t.totalSupply, allocations := t.newAllocations,
    laneId := t.laneId, privacyPolicy := t.privacyPolicy, policyCommitment := policyCommitment,
    metadataCommitment := t.metadataCommitment, ownerCommitment := t.newOwnerCommitment }

/-- The loop that refuses a new allocation in a spent covenant output. -/
def rejectReusedSpentAnchors (spent new : List RgkAllocation) : Except RgkAssetError Unit :=
  forEnum (fun index a => failIf (a.outpoint ∈ spent.map RgkAllocation.outpoint)
    (.reusedSpentAnchor index)) 0 new

lemma rejectReusedSpentAnchors_eq_ok {spent new : List RgkAllocation} :
    rejectReusedSpentAnchors spent new = .ok () ↔
      ∀ a ∈ new, a.outpoint ∉ spent.map RgkAllocation.outpoint := by
  apply forEnum_eq_ok
  intro i a
  exact failIf_eq_ok

def RgkTransition.validateStructure (t : RgkTransition) : Except RgkAssetError Unit := do
  validateCommon t.schemaId t.assetId t.totalSupply t.laneId t.proofPolicy
  validateMetadataCommitment t.metadataCommitment
  validateOwnerCommitment t.previousOwnerCommitment "previous"
  validateOwnerCommitment t.newOwnerCommitment "new"
  validateOwnershipHandoff t.previousOwnerCommitment t.newOwnerCommitment
    t.ownershipAuthorizationCommitment
  rejectZero t.previousStateDigest .zeroPreviousStateDigest
  rejectZero t.witnessTxid .zeroTransitionWitnessTxid
  failIf (t.spentAllocations = []) .emptyAllocations
  let spentSupply ← validateAllocationSetStructure t.chain t.spentAllocations
  let newSupply ← validateAllocationSetStructureAllowEmpty t.chain t.newAllocations
  let _ ← validateSupplyDelta spentSupply newSupply t.burn
  let policyCommitment ← policyCommitment H t.proofPolicy
  let computedPrevious := stateDigestForAllocations H
    (RgkTransition.previousInput t policyCommitment)
  failIf (computedPrevious ≠ t.previousStateDigest)
    (.previousStateDigestMismatch t.previousStateDigest computedPrevious)
  let newStateDigest := stateDigestForAllocations H (RgkTransition.newInput t policyCommitment)
  failIf (newStateDigest = t.previousStateDigest) .noOpTransition
  rejectReusedSpentAnchors t.spentAllocations t.newAllocations

/-- The report of a transition with the supplies its checks computed. -/
def RgkTransition.reportWith (t : RgkTransition) (spentSupply newSupply burnedSupply : UInt64)
    (policyCommitment : Bytes32) : RgkTransitionReport :=
  let newStateDigest := stateDigestForAllocations H (RgkTransition.newInput t policyCommitment)
  { chain := t.chain, schemaId := t.schemaId, assetId := t.assetId,
    totalSupply := t.totalSupply, metadataCommitment := t.metadataCommitment,
    previousOwnerCommitment := t.previousOwnerCommitment,
    newOwnerCommitment := t.newOwnerCommitment,
    ownershipAuthorizationCommitment := t.ownershipAuthorizationCommitment,
    spentSupply := spentSupply, newSupply := newSupply, burnedSupply := burnedSupply,
    burnAuthorizationCommitment := burnAuthorizationCommitment t.burn,
    spentAllocationCount := t.spentAllocations.length,
    newAllocationCount := t.newAllocations.length,
    laneId := t.laneId, privacyPolicy := t.privacyPolicy,
    policyCommitment := policyCommitment, previousStateDigest := t.previousStateDigest,
    newStateDigest := newStateDigest,
    transitionDigest := transitionDigestUnchecked H t newStateDigest policyCommitment }

def RgkTransition.reportUnchecked (t : RgkTransition) :
    Except RgkAssetError RgkTransitionReport := do
  let spentSupply ← validateAllocationSetStructure t.chain t.spentAllocations
  let newSupply ← validateAllocationSetStructureAllowEmpty t.chain t.newAllocations
  let burnedSupply ← validateSupplyDelta spentSupply newSupply t.burn
  let policyCommitment ← policyCommitment H t.proofPolicy
  .ok (RgkTransition.reportWith H t spentSupply newSupply burnedSupply policyCommitment)

def RgkTransition.validate (t : RgkTransition) : Except RgkAssetError RgkTransitionReport := do
  RgkTransition.validateStructure H t
  RgkTransition.reportUnchecked H t

/-- Everything the acceptance of a transition says about it and its report. -/
structure AcceptedTransition (t : RgkTransition) (r : RgkTransitionReport) : Prop where
  common : validateCommon t.schemaId t.assetId t.totalSupply t.laneId t.proofPolicy = .ok ()
  metadata : t.metadataCommitment ≠ Bytes.zero
  previousOwner : t.previousOwnerCommitment ≠ Bytes.zero
  newOwner : t.newOwnerCommitment ≠ Bytes.zero
  handoff : validateOwnershipHandoff t.previousOwnerCommitment t.newOwnerCommitment
    t.ownershipAuthorizationCommitment = .ok ()
  previousDigest_ne : t.previousStateDigest ≠ Bytes.zero
  witnessTxid : t.witnessTxid ≠ Bytes.zero
  spent_ne : t.spentAllocations ≠ []
  spent : IsAllocationSet t.chain t.spentAllocations r.spentSupply
  new : IsAllocationSet t.chain t.newAllocations r.newSupply
  delta : r.spentSupply.toNat = r.newSupply.toNat + r.burnedSupply.toNat
  burn : BurnAccounts r.burnedSupply t.burn
  previousDigest : stateDigestForAllocations H
    (RgkTransition.previousInput t (policyCommitmentBytes H t.proofPolicy)) = t.previousStateDigest
  changed : r.newStateDigest ≠ t.previousStateDigest
  fresh : ∀ a ∈ t.newAllocations, a.outpoint ∉ t.spentAllocations.map RgkAllocation.outpoint
  report : r = RgkTransition.reportWith H t r.spentSupply r.newSupply r.burnedSupply
    (policyCommitmentBytes H t.proofPolicy)

variable {H}

theorem RgkTransition.validate_inv {t : RgkTransition} {r : RgkTransitionReport}
    (h : RgkTransition.validate H t = .ok r) : AcceptedTransition H t r := by
  obtain ⟨hst, hrep⟩ := unit_bind_eq_ok.mp h
  obtain ⟨spent, hspent, hrep⟩ := bind_eq_ok.mp hrep
  obtain ⟨new, hnew, hrep⟩ := bind_eq_ok.mp hrep
  obtain ⟨burned, hburned, hrep⟩ := bind_eq_ok.mp hrep
  obtain ⟨pc, hpc, hrep⟩ := bind_eq_ok.mp hrep
  obtain ⟨-, rfl⟩ := policyCommitment_eq_ok.mp hpc
  have hr := (Except.ok.inj hrep).symm
  subst hr
  have hspent' := validateAllocationSetStructure_eq_ok.mp hspent
  have hnew' := validateAllocationSetStructureAllowEmpty_eq_ok.mp hnew
  have hdelta := validateSupplyDelta_eq_ok.mp hburned
  simp only [validateStructure, validateMetadataCommitment, validateOwnerCommitment,
    unit_bind_eq_ok, rejectZero_eq_ok] at hst
  obtain ⟨hc, hm, hpo, hno, hh, hpd, hw, -, hrest⟩ := hst
  obtain ⟨_, -, hrest⟩ := bind_eq_ok.mp hrest
  obtain ⟨_, -, hrest⟩ := bind_eq_ok.mp hrest
  obtain ⟨_, -, hrest⟩ := bind_eq_ok.mp hrest
  obtain ⟨pc, hpc', hrest⟩ := bind_eq_ok.mp hrest
  obtain ⟨-, rfl⟩ := policyCommitment_eq_ok.mp hpc'
  simp only [unit_bind_eq_ok, failIf_eq_ok, not_not, rejectReusedSpentAnchors_eq_ok] at hrest
  obtain ⟨hprev, hchg, hfresh⟩ := hrest
  exact ⟨hc, hm, hpo, hno, hh, hpd, hw, hspent'.1, hspent'.2, hnew', hdelta.1, hdelta.2, hprev,
    hchg, hfresh, rfl⟩

theorem RgkTransition.validate_of_accepted {t : RgkTransition} {r : RgkTransitionReport}
    (ha : AcceptedTransition H t r) : RgkTransition.validate H t = .ok r := by
  have hspent := validateAllocationSetStructure_eq_ok.mpr ⟨ha.spent_ne, ha.spent⟩
  have hnew := validateAllocationSetStructureAllowEmpty_eq_ok.mpr ha.new
  have hdelta := validateSupplyDelta_eq_ok.mpr ⟨ha.delta, ha.burn⟩
  have hpc : policyCommitment H t.proofPolicy = .ok (policyCommitmentBytes H t.proofPolicy) :=
    policyCommitment_of_common ha.common
  have hchg := ha.changed
  rw [ha.report] at hchg
  apply unit_bind_eq_ok.mpr
  constructor
  · simp only [validateStructure, unit_bind_eq_ok, validateMetadataCommitment,
      validateOwnerCommitment, rejectZero_eq_ok, failIf_eq_ok]
    refine ⟨ha.common, ha.metadata, ha.previousOwner, ha.newOwner, ha.handoff,
      ha.previousDigest_ne, ha.witnessTxid, ha.spent_ne, ?_⟩
    refine bind_eq_ok.mpr ⟨_, hspent, bind_eq_ok.mpr ⟨_, hnew, bind_eq_ok.mpr ⟨_, hdelta, ?_⟩⟩⟩
    refine bind_eq_ok.mpr ⟨_, hpc, ?_⟩
    simp only [unit_bind_eq_ok, failIf_eq_ok, not_not, rejectReusedSpentAnchors_eq_ok]
    exact ⟨ha.previousDigest, hchg, ha.fresh⟩
  · refine bind_eq_ok.mpr ⟨_, hspent, bind_eq_ok.mpr ⟨_, hnew, bind_eq_ok.mpr ⟨_, hdelta, ?_⟩⟩⟩
    exact bind_eq_ok.mpr ⟨_, hpc, congrArg Except.ok ha.report.symm⟩

end Transition
end RgkProtocol.AssetValidation
