import RgkProtocol.Codec
import RgkProtocol.CoreTypes

/-!
# Canonical wire encoding

The byte form of the types that travel: a fixed header, then the fields in order, each of a
width fixed by its type. Decoding checks the header, the tags, the structure of the value and
that nothing is left over, so that a byte string is accepted only as the encoding of one valid
value.
-/
namespace RgkProtocol.CanonicalEncoding
open ByteStrings Hashing CoreTypes Checked Codec

section Types

/-- Why a canonical object was not decoded. -/
inductive DecodeError where
  | eof
  | trailingBytes (remaining : ℕ)
  | badMagic
  | unknownVersion (version : UInt16)
  | unknownChain (tag : UInt8)
  | unknownReceiptPolicy (tag : UInt8)
  | unknownProofMode (tag : UInt8)
  | badDomainTag (expected got : UInt8)
  | blobTooLong (len max : ℕ)
  | structural (reason : String)
  deriving DecidableEq

def hexDigits (n : ℕ) : String :=
  String.ofList ((Nat.toDigits 16 n).leftpad 2 '0')

def DecodeError.display : DecodeError → String
  | .eof => "unexpected end of canonical buffer"
  | .trailingBytes remaining => "trailing " ++ toString remaining ++
      " byte(s) after canonical object"
  | .badMagic => "bad domain magic prefix"
  | .unknownVersion version => "unknown canonical encoding version " ++ toString version.toNat
  | .unknownChain tag => "unknown Kaspa chain id tag 0x" ++ hexDigits tag.toNat
  | .unknownReceiptPolicy tag => "unknown receipt policy tag 0x" ++ hexDigits tag.toNat
  | .unknownProofMode tag => "unknown proof mode tag 0x" ++ hexDigits tag.toNat
  | .badDomainTag expected got => "bad domain tag byte: expected 0x" ++ hexDigits expected.toNat ++
      ", got 0x" ++ hexDigits got.toNat
  | .blobTooLong len max => "variable blob length " ++ toString len ++ " exceeds max " ++ toString max
  | .structural reason => "structural invariant violated: " ++ reason

def encodingVersion : UInt16 := 1

def maxBlobBytes : ℕ := 2^20

/-- The bytes of `rgk:v0` and two zero bytes. -/
def domainMagic : Bytes 8 := ⟨[0x72, 0x67, 0x6b, 0x3a, 0x76, 0x30, 0, 0], rfl⟩

structure RgkAssetRef where
  assetId : Bytes32
  schemaId : Bytes32
  deriving DecidableEq

structure RgkReceipt where
  version : UInt16
  chainId : KaspaChainId
  covenantId : Bytes32
  oldState : RgkStateCommitment
  newState : RgkStateCommitment
  transitionDigest : Bytes32
  continuationCommitment : Bytes32
  proofMode : ProofMode
  replayNonce : Bytes32
  deriving DecidableEq

def debugProofMode : ProofMode → String
  | .verifierReceipt => "VerifierReceipt"
  | .zkReceipt => "ZkReceipt"
  | .p2mrRet => "P2mrRet"

def debugReceiptPolicy : ReceiptPolicy → String
  | .any => "Any"
  | .verifierOnly => "VerifierOnly"
  | .zkOrVerifier => "ZkOrVerifier"

def RgkStateCommitment.validateStructure (s : RgkStateCommitment) : Except DecodeError Unit := do
  failIf (s.version ≠ encodingVersion)
    (.structural ("unsupported state commitment version: got " ++ toString s.version.toNat ++
      ", expected " ++ toString encodingVersion.toNat))
  failIf (s.covenantId = Bytes.zero) (.structural "state commitment covenant id missing")
  failIf (s.assetId = Bytes.zero) (.structural "state commitment asset id missing")
  failIf (s.stateDigest = Bytes.zero) (.structural "state commitment digest missing")

def RgkReceipt.validateStructure (r : RgkReceipt) : Except DecodeError Unit := do
  failIf (r.version ≠ encodingVersion)
    (.structural ("unsupported receipt version: got " ++ toString r.version.toNat ++
      ", expected " ++ toString encodingVersion.toNat))
  RgkStateCommitment.validateStructure r.oldState
  RgkStateCommitment.validateStructure r.newState
  failIf (r.oldState.chainId ≠ r.chainId ∨ r.newState.chainId ≠ r.chainId)
    (.structural "chain id mismatch in receipt")
  failIf (r.oldState.covenantId ≠ r.covenantId ∨ r.newState.covenantId ≠ r.covenantId)
    (.structural "covenant id mismatch in receipt")
  failIf (r.oldState.assetId ≠ r.newState.assetId)
    (.structural "asset id changed across transition")
  failIf (r.oldState.receiptPolicy ≠ r.newState.receiptPolicy)
    (.structural "receipt policy changed across transition")
  failIf (r.oldState.stateDigest = r.newState.stateDigest)
    (.structural "state digest did not change")
  failIf (r.transitionDigest = Bytes.zero) (.structural "transition digest missing")
  failIf (r.continuationCommitment = Bytes.zero) (.structural "continuation commitment missing")
  failIf (¬r.oldState.receiptPolicy.admits r.proofMode)
    (.structural ("proof mode " ++ debugProofMode r.proofMode ++
      " not admitted by receipt policy " ++ debugReceiptPolicy r.oldState.receiptPolicy))

/-- What the structural check of a state asks for. -/
structure StateValid (s : RgkStateCommitment) : Prop where
  version : s.version = encodingVersion
  covenantId : s.covenantId ≠ Bytes.zero
  assetId : s.assetId ≠ Bytes.zero
  stateDigest : s.stateDigest ≠ Bytes.zero

/-- What the structural check of a receipt asks for. -/
structure ReceiptValid (r : RgkReceipt) : Prop where
  version : r.version = encodingVersion
  oldState : StateValid r.oldState
  newState : StateValid r.newState
  oldChain : r.oldState.chainId = r.chainId
  newChain : r.newState.chainId = r.chainId
  oldCovenant : r.oldState.covenantId = r.covenantId
  newCovenant : r.newState.covenantId = r.covenantId
  asset : r.oldState.assetId = r.newState.assetId
  policy : r.oldState.receiptPolicy = r.newState.receiptPolicy
  advances : r.oldState.stateDigest ≠ r.newState.stateDigest
  transition : r.transitionDigest ≠ Bytes.zero
  continuation : r.continuationCommitment ≠ Bytes.zero
  admitted : r.oldState.receiptPolicy.admits r.proofMode

lemma validateState_eq_ok {s : RgkStateCommitment} :
    RgkStateCommitment.validateStructure s = .ok () ↔ StateValid s := by
  simp only [RgkStateCommitment.validateStructure, unit_bind_eq_ok, failIf_eq_ok, not_not]
  constructor
  · intro ⟨hv, hc, ha, hd⟩
    exact ⟨hv, hc, ha, hd⟩
  · intro h
    exact ⟨h.version, h.covenantId, h.assetId, h.stateDigest⟩

lemma validateReceipt_eq_ok {r : RgkReceipt} :
    RgkReceipt.validateStructure r = .ok () ↔ ReceiptValid r := by
  simp only [RgkReceipt.validateStructure, unit_bind_eq_ok, failIf_eq_ok, not_not, not_or,
    validateState_eq_ok]
  constructor
  · intro ⟨hv, ho, hn, ⟨hc, hc'⟩, ⟨hk, hk'⟩, ha, hp, hd, ht, hcc, hm⟩
    exact ⟨hv, ho, hn, hc, hc', hk, hk', ha, hp, hd, ht, hcc, hm⟩
  · intro h
    exact ⟨h.version, h.oldState, h.newState, ⟨h.oldChain, h.newChain⟩,
      ⟨h.oldCovenant, h.newCovenant⟩, h.asset, h.policy, h.advances, h.transition, h.continuation,
      h.admitted⟩

end Types

section Canonical

/-- The byte form of a type and its reader. -/
class Canonical (α : Type) where
  encode : α → List UInt8
  decode : Reader DecodeError α

variable {α : Type} [Canonical α]

def encodeCanonical (x : α) : List UInt8 :=
  domainMagic.toList ++ (le16 encodingVersion ++ Canonical.encode x)

def decodeCanonical (buf : List UInt8) : Except DecodeError α :=
  runReader (do
    let magic ← readArray .eof 8
    check (failIf (magic ≠ domainMagic) .badMagic)
    let version ← readU16 .eof
    check (failIf (version ≠ encodingVersion) (.unknownVersion version))
    let value ← Canonical.decode
    ensureConsumed .trailingBytes
    pure value) buf

/-- A value is decoded from its own canonical bytes when it is valid, and from nothing else. -/
lemma decodeCanonical_eq_ok {Valid : α → Prop}
    (h : Exact (Canonical.decode : Reader DecodeError α) Canonical.encode Valid)
    {buf : List UInt8} {x : α} :
    decodeCanonical buf = .ok x ↔ Valid x ∧ buf = encodeCanonical x := by
  simp only [decodeCanonical, runReader_eq_ok, (exact_readArray 8).bind_eq_ok, check_bind_eq_ok,
    exact_readU16.bind_eq_ok, h.bind_eq_ok, ensureConsumed_bind_eq_ok, reader_pure_eq_ok,
    failIf_eq_ok, not_not, true_and]
  constructor
  · rintro ⟨_, _, _, rfl, _, rfl, _, _, rfl, _, rfl, _, _, ⟨hv, rfl⟩, rfl, rfl, _⟩
    exact ⟨hv, by simp [encodeCanonical]⟩
  · rintro ⟨hv, hbuf⟩
    exact ⟨[], _, _, hbuf, (), rfl, _, _, rfl, (), rfl, x, [], ⟨hv, (List.append_nil _).symm⟩,
      rfl, rfl, rfl⟩

end Canonical

section Tags
variable {α : Type}

/-- The reader of a tagged enumeration: its tag, then the byte of the member. -/
def decodeTagged (tag : UInt8) (fromTag : UInt8 → Option α) (unknown : UInt8 → DecodeError) :
    Reader DecodeError α := do
  let got ← readU8 .eof
  check (failIf (got ≠ tag) (.badDomainTag tag got))
  let val ← readU8 .eof
  check (okOr (fromTag val) (unknown val))

lemma exact_decodeTagged {tag : UInt8} {fromTag : UInt8 → Option α} {unknown : UInt8 → DecodeError}
    {asU8 : α → UInt8} (h : ∀ v a, fromTag v = some a ↔ v = asU8 a) :
    Exact (decodeTagged tag fromTag unknown) (fun a => [tag, asU8 a]) (fun _ => True) := by
  intro bs a rest
  simp only [decodeTagged, exact_readU8.bind_eq_ok, check_bind_eq_ok, check_eq_ok, failIf_eq_ok,
    okOr_eq_ok, not_not, true_and, h]
  constructor
  · rintro ⟨_, _, rfl, _, rfl, _, _, rfl, rfl, rfl⟩
    rfl
  · intro hbs
    exact ⟨tag, _, hbs, (), rfl, asU8 a, rest, rfl, rfl, rfl⟩

def KaspaChainId.encode (c : KaspaChainId) : List UInt8 := [KaspaChainId.tag, c.asU8]

def KaspaChainId.decode : Reader DecodeError KaspaChainId :=
  decodeTagged KaspaChainId.tag KaspaChainId.fromTag .unknownChain

def ProofMode.encode (m : ProofMode) : List UInt8 := [ProofMode.tag, m.asU8]

def ProofMode.decode : Reader DecodeError ProofMode :=
  decodeTagged ProofMode.tag ProofMode.fromTag .unknownProofMode

def ReceiptPolicy.decode : Reader DecodeError ReceiptPolicy :=
  decodeTagged ReceiptPolicy.tag ReceiptPolicy.fromTag .unknownReceiptPolicy

lemma exact_chainId : Exact KaspaChainId.decode KaspaChainId.encode (fun _ => True) :=
  exact_decodeTagged (fun _ _ => KaspaChainId.fromTag_eq_some)

lemma exact_proofMode : Exact ProofMode.decode ProofMode.encode (fun _ => True) :=
  exact_decodeTagged (fun _ _ => ProofMode.fromTag_eq_some)

lemma exact_receiptPolicy : Exact ReceiptPolicy.decode ReceiptPolicy.encode (fun _ => True) :=
  exact_decodeTagged (fun _ _ => ReceiptPolicy.fromTag_eq_some)

end Tags

section Records

def KaspaOutpoint.encode (o : KaspaOutpoint) : List UInt8 :=
  o.transactionId.toList ++ le32 o.index

def KaspaOutpoint.decode : Reader DecodeError KaspaOutpoint := do
  let transactionId ← readArray .eof 32
  let index ← readU32 .eof
  pure ⟨transactionId, index⟩

def RgkAssetRef.encode (a : RgkAssetRef) : List UInt8 := a.assetId.toList ++ a.schemaId.toList

def RgkAssetRef.decode : Reader DecodeError RgkAssetRef := do
  let assetId ← readArray .eof 32
  let schemaId ← readArray .eof 32
  pure ⟨assetId, schemaId⟩

def RgkStateCommitment.encode (s : RgkStateCommitment) : List UInt8 :=
  le16 s.version ++ (KaspaChainId.encode s.chainId ++ (s.covenantId.toList ++
    (s.assetId.toList ++ (s.stateDigest.toList ++ ReceiptPolicy.encode s.receiptPolicy))))

def RgkStateCommitment.decode : Reader DecodeError RgkStateCommitment := do
  let version ← readU16 .eof
  let chainId ← KaspaChainId.decode
  let covenantId ← readArray .eof 32
  let assetId ← readArray .eof 32
  let stateDigest ← readArray .eof 32
  let receiptPolicy ← ReceiptPolicy.decode
  let commitment : RgkStateCommitment :=
    ⟨version, chainId, covenantId, assetId, stateDigest, receiptPolicy⟩
  check (RgkStateCommitment.validateStructure commitment)
  pure commitment

def RgkReceipt.encode (r : RgkReceipt) : List UInt8 :=
  le16 r.version ++ (KaspaChainId.encode r.chainId ++ (r.covenantId.toList ++
    (RgkStateCommitment.encode r.oldState ++ (RgkStateCommitment.encode r.newState ++
      (r.transitionDigest.toList ++ (r.continuationCommitment.toList ++
        (ProofMode.encode r.proofMode ++ r.replayNonce.toList)))))))

def RgkReceipt.decode : Reader DecodeError RgkReceipt := do
  let version ← readU16 .eof
  let chainId ← KaspaChainId.decode
  let covenantId ← readArray .eof 32
  let oldState ← RgkStateCommitment.decode
  let newState ← RgkStateCommitment.decode
  let transitionDigest ← readArray .eof 32
  let continuationCommitment ← readArray .eof 32
  let proofMode ← ProofMode.decode
  let replayNonce ← readArray .eof 32
  let receipt : RgkReceipt := ⟨version, chainId, covenantId, oldState, newState,
    transitionDigest, continuationCommitment, proofMode, replayNonce⟩
  check (RgkReceipt.validateStructure receipt)
  pure receipt

instance : Canonical KaspaOutpoint := ⟨KaspaOutpoint.encode, KaspaOutpoint.decode⟩

instance : Canonical RgkAssetRef := ⟨RgkAssetRef.encode, RgkAssetRef.decode⟩

instance : Canonical RgkStateCommitment :=
  ⟨RgkStateCommitment.encode, RgkStateCommitment.decode⟩

instance : Canonical RgkReceipt := ⟨RgkReceipt.encode, RgkReceipt.decode⟩

lemma exact_outpoint : Exact KaspaOutpoint.decode KaspaOutpoint.encode (fun _ => True) := by
  intro bs o rest
  simp only [KaspaOutpoint.decode, KaspaOutpoint.encode, (exact_readArray 32).bind_eq_ok,
    exact_readU32.bind_eq_ok, reader_pure_eq_ok, true_and, List.append_assoc]
  constructor
  · rintro ⟨_, _, rfl, _, _, rfl, rfl, rfl⟩
    rfl
  · intro hbs
    exact ⟨_, _, hbs, _, _, rfl, rfl, rfl⟩

lemma exact_assetRef : Exact RgkAssetRef.decode RgkAssetRef.encode (fun _ => True) := by
  intro bs a rest
  simp only [RgkAssetRef.decode, RgkAssetRef.encode, (exact_readArray 32).bind_eq_ok,
    reader_pure_eq_ok, true_and, List.append_assoc]
  constructor
  · rintro ⟨_, _, rfl, _, _, rfl, rfl, rfl⟩
    rfl
  · intro hbs
    exact ⟨_, _, hbs, _, _, rfl, rfl, rfl⟩

lemma exact_stateCommitment : Exact RgkStateCommitment.decode RgkStateCommitment.encode
    (fun s => RgkStateCommitment.validateStructure s = .ok ()) := by
  intro bs s rest
  simp only [RgkStateCommitment.decode, RgkStateCommitment.encode, exact_readU16.bind_eq_ok,
    exact_chainId.bind_eq_ok, (exact_readArray 32).bind_eq_ok, exact_receiptPolicy.bind_eq_ok,
    check_bind_eq_ok, reader_pure_eq_ok, true_and, List.append_assoc]
  constructor
  · rintro ⟨_, _, rfl, _, _, rfl, _, _, rfl, _, _, rfl, _, _, rfl, _, _, rfl, _, hv, rfl, rfl⟩
    exact ⟨hv, rfl⟩
  · rintro ⟨hv, hbs⟩
    exact ⟨_, _, hbs, _, _, rfl, _, _, rfl, _, _, rfl, _, _, rfl, _, _, rfl, (), hv, rfl, rfl⟩

/-- The two states inside a receipt are checked once by their own readers and once more by the
receipt's, so the receipt's check decides alone. -/
lemma exact_receipt : Exact RgkReceipt.decode RgkReceipt.encode
    (fun r => RgkReceipt.validateStructure r = .ok ()) := by
  intro bs r rest
  simp only [RgkReceipt.decode, RgkReceipt.encode, exact_readU16.bind_eq_ok,
    exact_chainId.bind_eq_ok, (exact_readArray 32).bind_eq_ok, exact_stateCommitment.bind_eq_ok,
    exact_proofMode.bind_eq_ok, check_bind_eq_ok, reader_pure_eq_ok, true_and, List.append_assoc]
  constructor
  · rintro ⟨_, _, rfl, _, _, rfl, _, _, rfl, _, _, ⟨-, rfl⟩, _, _, ⟨-, rfl⟩, _, _, rfl, _, _, rfl,
      _, _, rfl, _, _, rfl, _, hv, rfl, rfl⟩
    exact ⟨hv, rfl⟩
  · rintro ⟨hv, hbs⟩
    have hold := validateState_eq_ok.mpr (validateReceipt_eq_ok.mp hv).oldState
    have hnew := validateState_eq_ok.mpr (validateReceipt_eq_ok.mp hv).newState
    exact ⟨_, _, hbs, _, _, rfl, _, _, rfl, _, _, ⟨hold, rfl⟩, _, _, ⟨hnew, rfl⟩, _, _, rfl, _, _,
      rfl, _, _, rfl, _, _, rfl, (), hv, rfl, rfl⟩

end Records

section Bijection

/-- The valid values are those that decode from their canonical bytes, and no other byte string
decodes to them. -/
def CanonicalBijection (α : Type) [Canonical α] (Valid : α → Prop) : Prop :=
  (∀ x : α, decodeCanonical (encodeCanonical x) = .ok x ↔ Valid x) ∧
    ∀ (buf : List UInt8) (x : α), decodeCanonical buf = .ok x → encodeCanonical x = buf

lemma canonicalBijection_of_exact {α : Type} [Canonical α] {Valid : α → Prop}
    (h : Exact (Canonical.decode : Reader DecodeError α) Canonical.encode Valid) :
    CanonicalBijection α Valid := by
  constructor
  · intro x
    rw [decodeCanonical_eq_ok h, and_iff_left rfl]
  · intro buf x hx
    exact ((decodeCanonical_eq_ok h).mp hx).2.symm

/-- Receipts and state commitments are encoded one to one as far as they are structurally valid,
outpoints and asset references without condition. -/
theorem canonical_encoding_bijective :
    CanonicalBijection RgkReceipt (fun r => RgkReceipt.validateStructure r = .ok ()) ∧
    CanonicalBijection RgkStateCommitment
      (fun s => RgkStateCommitment.validateStructure s = .ok ()) ∧
    CanonicalBijection KaspaOutpoint (fun _ => True) ∧
    CanonicalBijection RgkAssetRef (fun _ => True) :=
  ⟨canonicalBijection_of_exact exact_receipt,
    canonicalBijection_of_exact exact_stateCommitment,
    canonicalBijection_of_exact exact_outpoint, canonicalBijection_of_exact exact_assetRef⟩

end Bijection
end RgkProtocol.CanonicalEncoding
