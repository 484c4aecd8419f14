import RgkProtocol.AssetTypes

/-!
# Byte encodings and digests of native asset objects

The 157-byte allocation record, the sorted allocation root, the state digest, the
continuation commitment and the transition digest. Each digest is a tagged hash of an
explicit payload, so that what a digest binds is a statement about its payload.
-/
namespace RgkProtocol.AssetEncoding
open ByteStrings Hashing CoreTypes Checked AssetTypes

section Allocation

def encodeAllocation (a : RgkAllocation) : List UInt8 :=
  [a.anchor.chain.asU8] ++ (a.anchor.covenantOutpoint.transactionId.toList ++
    (le32 a.anchor.covenantOutpoint.index ++ (a.anchor.covenantId.toList ++
      (a.anchor.witnessTxid.toList ++ (le64 a.anchor.daaScore ++
        (le64 a.anchor.confirmationDepth ++ (le64 a.amount ++
          a.encryptedNoteCommitment.toList)))))))

@[simp] lemma length_encodeAllocation (a : RgkAllocation) : (encodeAllocation a).length = 157 := by
  simp [encodeAllocation]

theorem encodeAllocation_injective : Function.Injective encodeAllocation := by
  rintro ⟨⟨c, ⟨t, i⟩, v, w, d, q⟩, m, n⟩ ⟨⟨c', ⟨t', i'⟩, v', w', d', q'⟩, m', n'⟩ h
  simp only [encodeAllocation, List.singleton_append, List.cons.injEq, KaspaChainId.asU8_inj,
    Bytes.append_inj, le32_append_inj, le64_append_inj, Bytes.toList_inj] at h
  obtain ⟨rfl, rfl, rfl, rfl, rfl, rfl, rfl, rfl, rfl⟩ := h
  rfl

/-- The sort key: outpoint, covenant id, witness txid, DAA score, amount. -/
def allocationKey (a : RgkAllocation) : List ℕ :=
  a.outpoint.key ++ bytesKey a.anchor.covenantId ++ bytesKey a.anchor.witnessTxid ++
    [a.anchor.daaScore.toNat, a.amount.toNat]

def encodeAllocations (as : List RgkAllocation) : List UInt8 :=
  le32 (UInt32.ofNat as.length) ++ as.flatMap encodeAllocation

lemma encodeAllocations_injective : Function.Injective encodeAllocations := by
  intro as bs h
  rw [encodeAllocations, encodeAllocations, le32_append_inj] at h
  exact flatMap_injective (by norm_num) length_encodeAllocation encodeAllocation_injective h.2

def allocationRootPayload (as : List RgkAllocation) : List UInt8 :=
  encodeAllocations (sortByKey allocationKey as)

lemma outpoint_eq_of_allocationKey_eq {a b : RgkAllocation}
    (h : allocationKey a = allocationKey b) : a.outpoint = b.outpoint := by
  have hlen : a.outpoint.key.length = b.outpoint.key.length := by
    simp [KaspaOutpoint.key, bytesKey]
  simp only [allocationKey, List.append_assoc] at h
  exact KaspaOutpoint.key_injective (List.append_inj h hlen).1

lemma perm_of_allocationRootPayload_eq {as bs : List RgkAllocation}
    (h : allocationRootPayload as = allocationRootPayload bs) : as.Perm bs :=
  perm_of_sortByKey_eq (encodeAllocations_injective h)

/-- Allocations in distinct outputs have one sorted order, although the key leaves out the
confirmation depth and the note. -/
lemma sortByKey_allocationKey_of_perm {as bs : List RgkAllocation}
    (hd : (as.map RgkAllocation.outpoint).Nodup) (h : as.Perm bs) :
    sortByKey allocationKey as = sortByKey allocationKey bs :=
  sortByKey_eq_of_perm h fun _ ha _ hb hkey =>
    List.inj_on_of_nodup_map hd ha hb (outpoint_eq_of_allocationKey_eq hkey)

end Allocation

section Policy

def encodeImageIdPolicy : ImageIdPolicy → List UInt8
  | .fixed imageId => 0 :: imageId.toList
  | .allowedSet set => 1 :: (le32 (UInt32.ofNat set.length) ++ set.flatMap Bytes.toList)
  | .policyBranch branch => 2 :: branch.toList

def encodeProofPolicy : RgkProofPolicy → List UInt8
  | .verifierReceipt verifierKeyHash => 0 :: verifierKeyHash.toList
  | .zkReceipt verifierKeyId imageIdPolicy =>
      1 :: (verifierKeyId.toList ++ encodeImageIdPolicy imageIdPolicy)
  | .hybrid verifierKeyHash verifierKeyId => 2 :: (verifierKeyHash.toList ++ verifierKeyId.toList)

end Policy

def encodeBurnProof : Option RgkBurnProof → List UInt8
  | none => [0]
  | some proof => 1 :: (le64 proof.amount ++ proof.authorizationCommitment.toList)

/-- The first byte says whether a burn follows, so the burn can be read off any longer string. -/
@[simp] lemma encodeBurnProof_append_inj {b c : Option RgkBurnProof} {x y : List UInt8} :
    encodeBurnProof b ++ x = encodeBurnProof c ++ y ↔ b = c ∧ x = y := by
  cases b with
  | none => cases c <;> simp [encodeBurnProof]
  | some b =>
    cases c with
    | none => simp [encodeBurnProof]
    | some c =>
      cases b
      cases c
      simp [encodeBurnProof, and_assoc]

def burnAuthorizationCommitment (burn : Option RgkBurnProof) : Bytes32 :=
  match burn with
  | none => Bytes.zero
  | some proof => proof.authorizationCommitment

section Shapes

def shapeKey (s : RgkContinuationAllocationShape) : List ℕ :=
  [s.outputIndex.toNat] ++ bytesKey s.covenantId ++ bytesKey s.encryptedNoteCommitment ++
    [s.amount.toNat]

def encodeShape (s : RgkContinuationAllocationShape) : List UInt8 :=
  le32 s.outputIndex ++ (s.covenantId.toList ++ (le64 s.amount ++ s.encryptedNoteCommitment.toList))

/-- The payload of a shape root over shapes in the order given. -/
def encodeShapes (chain : KaspaChainId) (shapes : List RgkContinuationAllocationShape) :
    List UInt8 :=
  [chain.asU8] ++ (le32 (UInt32.ofNat shapes.length) ++ shapes.flatMap encodeShape)

lemma encodeShape_injective : Function.Injective encodeShape := by
  rintro ⟨i, c, m, n⟩ ⟨i', c', m', n'⟩ h
  simp only [encodeShape, le32_append_inj, Bytes.append_inj, le64_append_inj,
    Bytes.toList_inj] at h
  obtain ⟨rfl, rfl, rfl, rfl⟩ := h
  rfl

lemma encodeShapes_injective (c : KaspaChainId) : Function.Injective (encodeShapes c) := by
  intro xs ys h
  have hw : ∀ x : RgkContinuationAllocationShape, (encodeShape x).length = 76 := by
    intro x
    simp [encodeShape]
  rw [encodeShapes, encodeShapes, append_cancel rfl, le32_append_inj] at h
  exact flatMap_injective (by omega) hw encodeShape_injective h.2.2

def continuationShapePayload (chain : KaspaChainId) (shapes : List RgkContinuationAllocationShape) :
    List UInt8 :=
  encodeShapes chain (sortByKey shapeKey shapes)

lemma perm_of_continuationShapePayload_eq {chain : KaspaChainId}
    {xs ys : List RgkContinuationAllocationShape}
    (h : continuationShapePayload chain xs = continuationShapePayload chain ys) : xs.Perm ys :=
  perm_of_sortByKey_eq (encodeShapes_injective chain h)

lemma sortByKey_shapeKey_of_perm {xs ys : List RgkContinuationAllocationShape}
    (hd : (xs.map RgkContinuationAllocationShape.outputIndex).Nodup) (h : xs.Perm ys) :
    sortByKey shapeKey xs = sortByKey shapeKey ys := by
  refine sortByKey_eq_of_perm h fun a ha b hb hkey => List.inj_on_of_nodup_map hd ha hb ?_
  simp only [shapeKey, List.cons_append, List.cons.injEq] at hkey
  exact UInt32.toNat_inj.mp hkey.1

end Shapes

structure RgkStateDigestInput where
  assetId : Bytes32
  totalSupply : UInt64
  allocations : List RgkAllocation
  laneId : Bytes32
  privacyPolicy : LanePrivacyPolicy
  policyCommitment : Bytes32
  metadataCommitment : Bytes32
  ownerCommitment : Bytes32
  deriving DecidableEq

section Digests
variable (H : List UInt8 → Bytes32)

def allocationRoot (as : List RgkAllocation) : Bytes32 :=
  domainHashStr H "rgk:asset:allocation-root:v1" (allocationRootPayload as)

def policyCommitmentBytes (p : RgkProofPolicy) : Bytes32 :=
  domainHashStr H "rgk:asset:policy:v1" (encodeProofPolicy p)

def continuationShapeRoot (chain : KaspaChainId) (shapes : List RgkContinuationAllocationShape) :
    Bytes32 :=
  domainHashStr H "rgk:continuation:shape-root:v1" (continuationShapePayload chain shapes)

/-- The payload of a state digest over a given allocation root. -/
def stateDigestPayloadWith (s : RgkStateDigestInput) (root : Bytes32) : List UInt8 :=
  s.assetId.toList ++ (le64 s.totalSupply ++ (root.toList ++
    (s.policyCommitment.toList ++ (s.metadataCommitment.toList ++ (s.ownerCommitment.toList ++
      ([s.privacyPolicy.asU8] ++ s.laneId.toList))))))

def stateDigestPayload (s : RgkStateDigestInput) : List UInt8 :=
  stateDigestPayloadWith s (allocationRoot H s.allocations)

def stateDigestForAllocations (s : RgkStateDigestInput) : Bytes32 :=
  domainHashStr H "rgk:asset:state:v2" (stateDigestPayload H s)

/-- The strings hashed on the way to a state digest: the allocation root's and its own. -/
def stateDigestPreimages (s : RgkStateDigestInput) : List (List UInt8) :=
  [taggedPreimage "rgk:asset:allocation-root:v1" (allocationRootPayload s.allocations),
    taggedPreimage "rgk:asset:state:v2" (stateDigestPayload H s)]

variable {H}

/-- The same state, up to the order in which its allocations are listed. -/
structure SameState (s t : RgkStateDigestInput) : Prop where
  assetId : s.assetId = t.assetId
  totalSupply : s.totalSupply = t.totalSupply
  allocations : s.allocations.Perm t.allocations
  laneId : s.laneId = t.laneId
  privacyPolicy : s.privacyPolicy = t.privacyPolicy
  policyCommitment : s.policyCommitment = t.policyCommitment
  metadataCommitment : s.metadataCommitment = t.metadataCommitment
  ownerCommitment : s.ownerCommitment = t.ownerCommitment

theorem sameState_of_stateDigest_eq {Q : Set (List UInt8)} (hcf : CollisionFree H Q)
    {s t : RgkStateDigestInput} (hs : ∀ x ∈ stateDigestPreimages H s, x ∈ Q)
    (ht : ∀ x ∈ stateDigestPreimages H t, x ∈ Q)
    (h : stateDigestForAllocations H s = stateDigestForAllocations H t) : SameState s t := by
  simp only [stateDigestPreimages, List.forall_mem_cons] at hs ht
  have hp := payload_eq_of_domainHashStr_eq hcf hs.2.1 ht.2.1 h
  simp only [stateDigestPayload, stateDigestPayloadWith, Bytes.append_inj, le64_append_inj,
    List.singleton_append, List.cons.injEq, LanePrivacyPolicy.asU8_inj, Bytes.toList_inj] at hp
  obtain ⟨hasset, hsupply, hroot, hpolicy, hmetadata, howner, hprivacy, hlane⟩ := hp
  have hr := payload_eq_of_domainHashStr_eq hcf hs.1 ht.1 hroot
  exact ⟨hasset, hsupply, perm_of_allocationRootPayload_eq hr, hlane, hprivacy, hpolicy, hmetadata,
    howner⟩

theorem stateDigest_binding {Q : Set (List UInt8)} (hcf : CollisionFree H Q)
    {s t : RgkStateDigestInput} (hs : ∀ x ∈ stateDigestPreimages H s, x ∈ Q)
    (ht : ∀ x ∈ stateDigestPreimages H t, x ∈ Q)
    (h : stateDigestForAllocations H s = stateDigestForAllocations H t) :
    s.totalSupply = t.totalSupply ∧ s.allocations.Perm t.allocations := by
  have hsame := sameState_of_stateDigest_eq hcf hs ht h
  exact ⟨hsame.totalSupply, hsame.allocations⟩

end Digests

section Commitments
variable (H : List UInt8 → Bytes32)

/-- The fields that both the continuation commitment and the transition digest end with. -/
def governancePayload (laneId : Bytes32) (privacyPolicy : LanePrivacyPolicy)
    (policyCommitment metadataCommitment previousOwnerCommitment newOwnerCommitment
      ownershipAuthorizationCommitment : Bytes32) : List UInt8 :=
  laneId.toList ++ ([privacyPolicy.asU8] ++ (policyCommitment.toList ++
    (metadataCommitment.toList ++ (previousOwnerCommitment.toList ++
      (newOwnerCommitment.toList ++ ownershipAuthorizationCommitment.toList)))))

@[simp] lemma length_governancePayload (laneId : Bytes32) (privacyPolicy : LanePrivacyPolicy)
    (policyCommitment metadataCommitment previousOwnerCommitment newOwnerCommitment
      ownershipAuthorizationCommitment : Bytes32) :
    (governancePayload laneId privacyPolicy policyCommitment metadataCommitment
      previousOwnerCommitment newOwnerCommitment ownershipAuthorizationCommitment).length = 193 := by
  simp [governancePayload]

/-- The payload of a continuation commitment over a given spent root. -/
def continuationCommitmentPayloadWith (p : RgkContinuationPlan)
    (policyCommitment spentRoot shapeRoot : Bytes32) : List UInt8 :=
  [p.chain.asU8] ++ (p.schemaId.toList ++ (p.assetId.toList ++ (le64 p.totalSupply ++
    (p.previousStateDigest.toList ++ (spentRoot.toList ++ (shapeRoot.toList ++
      (encodeBurnProof p.burn ++ governancePayload p.laneId p.privacyPolicy policyCommitment
        p.metadataCommitment p.previousOwnerCommitment p.newOwnerCommitment
        p.ownershipAuthorizationCommitment)))))))

def continuationCommitmentPayload (p : RgkContinuationPlan)
    (policyCommitment shapeRoot : Bytes32) : List UInt8 :=
  continuationCommitmentPayloadWith p policyCommitment (allocationRoot H p.spentAllocations)
    shapeRoot

def commitmentUnchecked (p : RgkContinuationPlan) (policyCommitment shapeRoot : Bytes32) : Bytes32 :=
  domainHashStr H "rgk:continuation:phase1:v2"
    (continuationCommitmentPayload H p policyCommitment shapeRoot)

/-- Allocations in the caller's order, each behind a direction tag. -/
def taggedAllocations (tag : UInt8) (as : List RgkAllocation) : List UInt8 :=
  le32 (UInt32.ofNat as.length) ++ as.flatMap (fun a => tag :: encodeAllocation a)

lemma taggedAllocations_injective (tag : UInt8) : Function.Injective (taggedAllocations tag) := by
  intro as bs h
  have hw : ∀ a : RgkAllocation, (tag :: encodeAllocation a).length = 158 := by simp
  have hinj : Function.Injective (fun a : RgkAllocation => tag :: encodeAllocation a) :=
    fun a b hab => encodeAllocation_injective (List.cons.inj hab).2
  rw [taggedAllocations, taggedAllocations, le32_append_inj] at h
  exact flatMap_injective (by omega) hw hinj h.2

lemma taggedAllocations_append_inj {tag : UInt8} {as bs : List RgkAllocation} {x y : List UInt8}
    (hlen : as.length = bs.length)
    (h : taggedAllocations tag as ++ x = taggedAllocations tag bs ++ y) : as = bs ∧ x = y := by
  have hl : (taggedAllocations tag as).length = (taggedAllocations tag bs).length := by
    simp [taggedAllocations, List.length_flatMap, hlen]
  obtain ⟨ht, hxy⟩ := (append_cancel hl).mp h
  exact ⟨taggedAllocations_injective tag ht, hxy⟩

def transitionDigestPayload (t : RgkTransition) (newStateDigest policyCommitment : Bytes32) :
    List UInt8 :=
  [t.chain.asU8] ++ (t.schemaId.toList ++ (t.assetId.toList ++ (le64 t.totalSupply ++
    (t.previousStateDigest.toList ++ (newStateDigest.toList ++ (t.witnessTxid.toList ++
      (encodeBurnProof t.burn ++ (governancePayload t.laneId t.privacyPolicy policyCommitment
          t.metadataCommitment t.previousOwnerCommitment t.newOwnerCommitment
          t.ownershipAuthorizationCommitment ++
        (taggedAllocations 0x69 t.spentAllocations ++
          taggedAllocations 0x6f t.newAllocations)))))))))

def transitionDigestUnchecked (t : RgkTransition) (newStateDigest policyCommitment : Bytes32) :
    Bytes32 :=
  domainHashStr H "rgk:asset:transition:v2" (transitionDigestPayload t newStateDigest policyCommitment)

end Commitments
end RgkProtocol.AssetEncoding
