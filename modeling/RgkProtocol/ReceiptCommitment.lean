import RgkProtocol.CanonicalEncoding

/-!
# Receipt ids

The id of a receipt is a tagged hash of its body: a domain string that names chain, policy and
proof mode, and the digests of the transition. The body leaves out what the structure of a valid
receipt repeats, and it also leaves out the asset id, which nothing else in it determines.
-/
namespace RgkProtocol.ReceiptCommitment
open ByteStrings Hashing CoreTypes CanonicalEncoding

section DomainString

def KaspaChainId.asDomainStr : KaspaChainId → String
  | .kaspaMainnet => "kaspa-mainnet"
  | .kaspaTestnet => "kaspa-testnet"
  | .kaspaSimnet => "kaspa-simnet"
  | .kaspaDevnet => "kaspa-devnet"
  | .kaspaLocalToccata => "kaspa-local-toccata"

def ProofMode.asDomainStr : ProofMode → String
  | .verifierReceipt => "verifier-receipt"
  | .zkReceipt => "zk-receipt"
  | .p2mrRet => "p2mr-ret"

def ReceiptPolicy.asDomainStr : ReceiptPolicy → String
  | .any => "any"
  | .verifierOnly => "verifier-only"
  | .zkOrVerifier => "zk-or-verifier"

def domainString (chain : KaspaChainId) (policy : ReceiptPolicy) (mode : Option ProofMode) :
    String :=
  match mode with
  | some m => "rgk:v0 | chain=" ++ KaspaChainId.asDomainStr chain ++ " | policy=" ++
      ReceiptPolicy.asDomainStr policy ++ " | mode=" ++ ProofMode.asDomainStr m
  | none => "rgk:v0 | chain=" ++ KaspaChainId.asDomainStr chain ++ " | policy=" ++
      ReceiptPolicy.asDomainStr policy

/-- A string behind its length. -/
def writeStr (s : String) : List UInt8 :=
  le32 (UInt32.ofNat (utf8Bytes s).length) ++ utf8Bytes s

/-- What the domain string of a receipt names. -/
abbrev DomainKey := KaspaChainId × ReceiptPolicy × ProofMode

def domainBytes (k : DomainKey) : List UInt8 := utf8Bytes (domainString k.1 k.2.1 (some k.2.2))

def allDomainKeys : List DomainKey :=
  [.kaspaMainnet, .kaspaTestnet, .kaspaSimnet, .kaspaDevnet, .kaspaLocalToccata].flatMap fun c =>
    [ReceiptPolicy.any, .verifierOnly, .zkOrVerifier].flatMap fun p =>
      [ProofMode.verifierReceipt, .zkReceipt, .p2mrRet].map fun m => (c, p, m)

lemma mem_allDomainKeys (k : DomainKey) : k ∈ allDomainKeys := by
  obtain ⟨c, p, m⟩ := k
  cases c <;> cases p <;> cases m <;> decide

lemma allDomainBytes_nodup : (allDomainKeys.map domainBytes).Nodup := by
  decide +kernel

lemma length_domainBytes_lt (k : DomainKey) : (domainBytes k).length < 2^32 := by
  have hall : ∀ k ∈ allDomainKeys, (domainBytes k).length < 2^32 := by decide +kernel
  exact hall k (mem_allDomainKeys k)

theorem domainBytes_injective : Function.Injective domainBytes := by
  intro k k' h
  exact List.inj_on_of_nodup_map allDomainBytes_nodup (mem_allDomainKeys k)
    (mem_allDomainKeys k') h

lemma writeDomain_append_inj (k k' : DomainKey) {s t : List UInt8} :
    writeStr (domainString k.1 k.2.1 (some k.2.2)) ++ s =
        writeStr (domainString k'.1 k'.2.1 (some k'.2.2)) ++ t ↔ k = k' ∧ s = t := by
  constructor
  · intro h
    simp only [writeStr, List.append_assoc, le32_append_inj] at h
    obtain ⟨hlen, h⟩ := h
    have hlen' : (domainBytes k).length = (domainBytes k').length := by
      have hn := congrArg UInt32.toNat hlen
      rw [UInt32.toNat_ofNat', UInt32.toNat_ofNat'] at hn
      have hk := Nat.mod_eq_of_lt (length_domainBytes_lt k)
      have hk' := Nat.mod_eq_of_lt (length_domainBytes_lt k')
      exact hk.symm.trans (hn.trans hk')
    obtain ⟨hk, hst⟩ := (append_cancel hlen').mp h
    exact ⟨domainBytes_injective hk, hst⟩
  · rintro ⟨rfl, rfl⟩
    rfl

end DomainString

section Commitment
variable (H : List UInt8 → Bytes32)

def RgkReceipt.encodeBody (r : RgkReceipt) : List UInt8 :=
  writeStr (domainString r.chainId r.oldState.receiptPolicy (some r.proofMode)) ++
    (r.covenantId.toList ++ (r.oldState.stateDigest.toList ++ (r.newState.stateDigest.toList ++
      (r.transitionDigest.toList ++ (r.continuationCommitment.toList ++ r.replayNonce.toList)))))

def receiptPreimage (r : RgkReceipt) : List UInt8 :=
  taggedPreimage "rgk:receipt" (RgkReceipt.encodeBody r)

def receiptCommitment (r : RgkReceipt) : Bytes32 :=
  domainHashStr H "rgk:receipt" (RgkReceipt.encodeBody r)

/-- The receipt with the asset of both states replaced. -/
def RgkReceipt.withAsset (r : RgkReceipt) (asset : Bytes32) : RgkReceipt :=
  { r with
    oldState := { r.oldState with assetId := asset }
    newState := { r.newState with assetId := asset } }

lemma encodeBody_withAsset (r : RgkReceipt) (asset : Bytes32) :
    RgkReceipt.encodeBody (RgkReceipt.withAsset r asset) = RgkReceipt.encodeBody r := rfl

lemma ReceiptValid.withAsset_self {r : RgkReceipt} (h : ReceiptValid r) :
    RgkReceipt.withAsset r r.oldState.assetId = r := by
  obtain ⟨version, chain, covenant, old, new, transition, continuation, mode, nonce⟩ := r
  have hnew : ({ new with assetId := old.assetId } : RgkStateCommitment) = new := by
    rw [show old.assetId = new.assetId from h.asset]
  simp only [RgkReceipt.withAsset, hnew]

lemma encodeBody_inj {r₁ r₂ : RgkReceipt} (h₁ : ReceiptValid r₁) (h₂ : ReceiptValid r₂)
    (asset : Bytes32) : RgkReceipt.encodeBody r₁ = RgkReceipt.encodeBody r₂ ↔
      RgkReceipt.withAsset r₁ asset = RgkReceipt.withAsset r₂ asset := by
  constructor
  · intro h
    obtain ⟨hk, h⟩ := (writeDomain_append_inj
      (r₁.chainId, r₁.oldState.receiptPolicy, r₁.proofMode)
      (r₂.chainId, r₂.oldState.receiptPolicy, r₂.proofMode)).mp h
    simp only [Bytes.append_inj, Bytes.toList_inj] at h
    simp only [Prod.mk.injEq] at hk
    obtain ⟨hchain, hpolicy, hmode⟩ := hk
    obtain ⟨hcov, hold, hnew, htrans, hcont, hnonce⟩ := h
    have hstate : ∀ s₁ s₂ : RgkStateCommitment, StateValid s₁ → StateValid s₂ →
        s₁.chainId = s₂.chainId → s₁.covenantId = s₂.covenantId → s₁.stateDigest = s₂.stateDigest →
        s₁.receiptPolicy = s₂.receiptPolicy →
        ({ s₁ with assetId := asset } : RgkStateCommitment) = { s₂ with assetId := asset } := by
      intro s₁ s₂ hv₁ hv₂ hc hk hd hp
      rw [hv₁.version, hv₂.version, hc, hk, hd, hp]
    simp only [RgkReceipt.withAsset, RgkReceipt.mk.injEq]
    refine ⟨h₁.version.trans h₂.version.symm, hchain, hcov, ?_, ?_, htrans, hcont, hmode, hnonce⟩
    · exact hstate _ _ h₁.oldState h₂.oldState
        (h₁.oldChain.trans (hchain.trans h₂.oldChain.symm))
        (h₁.oldCovenant.trans (hcov.trans h₂.oldCovenant.symm)) hold hpolicy
    · exact hstate _ _ h₁.newState h₂.newState
        (h₁.newChain.trans (hchain.trans h₂.newChain.symm))
        (h₁.newCovenant.trans (hcov.trans h₂.newCovenant.symm)) hnew
        (h₁.policy.symm.trans (hpolicy.trans h₂.policy))
  · intro h
    rw [← encodeBody_withAsset r₁ asset, h, encodeBody_withAsset]

end Commitment

/-- The id tells two valid receipts apart exactly when they have one asset or differ in something
other than the asset. -/
theorem receiptCommitment_binds_iff (H : List UInt8 → Bytes32) (r₁ r₂ : RgkReceipt)
    (h₁ : RgkReceipt.validateStructure r₁ = .ok ()) (h₂ : RgkReceipt.validateStructure r₂ = .ok ())
    (hcf : CollisionFree H {receiptPreimage r₁, receiptPreimage r₂}) :
    (receiptCommitment H r₁ = receiptCommitment H r₂ → r₁ = r₂) ↔
      r₁.oldState.assetId = r₂.oldState.assetId ∨
        RgkReceipt.withAsset r₁ r₂.oldState.assetId ≠ r₂ := by
  rw [validateReceipt_eq_ok] at h₁ h₂
  have hids : receiptCommitment H r₁ = receiptCommitment H r₂ ↔
      RgkReceipt.withAsset r₁ r₂.oldState.assetId = r₂ := by
    have hbody := encodeBody_inj h₁ h₂ r₂.oldState.assetId
    rw [ReceiptValid.withAsset_self h₂] at hbody
    rw [← hbody]
    constructor
    · intro h
      exact payload_eq_of_domainHashStr_eq hcf (Set.mem_insert _ _)
        (Set.mem_insert_of_mem _ rfl) h
    · intro h
      rw [receiptCommitment, receiptCommitment, h]
  rw [hids]
  constructor
  · intro himp
    rcases eq_or_ne (RgkReceipt.withAsset r₁ r₂.oldState.assetId) r₂ with heq | hne
    · exact Or.inl (by rw [himp heq])
    · exact Or.inr hne
  · intro hor heq
    rcases hor with hasset | hne
    · rw [← hasset, ReceiptValid.withAsset_self h₁] at heq
      exact heq
    · exact absurd heq hne

section Samples

def sampleReceiptState (asset digest : UInt8) : RgkStateCommitment :=
  ⟨1, .kaspaSimnet, Bytes.fill 32 0x22, Bytes.fill 32 asset, Bytes.fill 32 digest, .verifierOnly⟩

def sampleReceipt (asset nonce : UInt8) : RgkReceipt :=
  ⟨1, .kaspaSimnet, Bytes.fill 32 0x22, sampleReceiptState asset 1, sampleReceiptState asset 2,
    Bytes.fill 32 0x55, Bytes.fill 32 0x66, .verifierReceipt, Bytes.fill 32 nonce⟩

theorem receiptCommitment_binds_sample :
    (receiptCommitment Sha256.digest (sampleReceipt 0x44 1) =
        receiptCommitment Sha256.digest (sampleReceipt 0x44 2) →
      sampleReceipt 0x44 1 = sampleReceipt 0x44 2) ↔
    (sampleReceipt 0x44 1).oldState.assetId = (sampleReceipt 0x44 2).oldState.assetId ∨
      RgkReceipt.withAsset (sampleReceipt 0x44 1) (sampleReceipt 0x44 2).oldState.assetId ≠
        sampleReceipt 0x44 2 := by
  refine receiptCommitment_binds_iff Sha256.digest (sampleReceipt 0x44 1) (sampleReceipt 0x44 2)
    (by decide +kernel) (by decide +kernel) ?_
  have hnodup : ([receiptPreimage (sampleReceipt 0x44 1),
      receiptPreimage (sampleReceipt 0x44 2)].map Sha256.digest).Nodup := by decide +kernel
  exact (CollisionFree.of_nodup hnodup).mono (fun x hx => by simpa using hx)

/-- Two valid receipts for different assets with one id. -/
theorem receiptCommitment_forgets_asset :
    RgkReceipt.validateStructure (sampleReceipt 0x44 1) = .ok () ∧
      RgkReceipt.validateStructure (sampleReceipt 0x77 1) = .ok () ∧
      receiptCommitment Sha256.digest (sampleReceipt 0x44 1) =
        receiptCommitment Sha256.digest (sampleReceipt 0x77 1) ∧
      sampleReceipt 0x44 1 ≠ sampleReceipt 0x77 1 := by
  have hbody : RgkReceipt.encodeBody (sampleReceipt 0x44 1) =
      RgkReceipt.encodeBody (sampleReceipt 0x77 1) :=
    encodeBody_withAsset (sampleReceipt 0x77 1) (Bytes.fill 32 0x44)
  exact ⟨by decide +kernel, by decide +kernel, by rw [receiptCommitment, receiptCommitment, hbody],
    by decide +kernel⟩

end Samples
end RgkProtocol.ReceiptCommitment
