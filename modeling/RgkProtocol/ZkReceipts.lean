import RgkProtocol.CircuitMeaning
import RgkProtocol.ReceiptVerification

/-!
# Receipts with a proof

The circuit of a receipt hashes the receipt's body to the public receipt id and compares five fields
of the body with the public statement. The asset id and the chain id are public too, but no
constraint reads them: what ties them to the receipt is the comparison of the statement outside of
the circuit.

The circuit of a transition statement has the whole statement as public input and checks its layout.
-/
namespace RgkProtocol.ZkReceipts
open ByteStrings Hashing CoreTypes Checked CanonicalEncoding FieldPacking CircuitGadgets
open SemanticStatement ReceiptCommitment AllocationCircuit CircuitMeaning

section Statement

structure ZkStatement where
  oldStateDigest : Bytes32
  newStateDigest : Bytes32
  assetId : Bytes32
  kaspaCovenantId : Bytes32
  chainId : KaspaChainId
  receiptId : Bytes32
  transitionDigest : Bytes32
  continuationCommitment : Bytes32
  deriving DecidableEq

def zkPublicInputLen : ℕ := 232

def ZkStatement.publicInputs (s : ZkStatement) : List UInt8 :=
  s.oldStateDigest.toList ++ (s.newStateDigest.toList ++ (s.assetId.toList ++
    (s.kaspaCovenantId.toList ++ (chainIdTaggedLeU32 s.chainId ++ (s.receiptId.toList ++
      (s.transitionDigest.toList ++ s.continuationCommitment.toList))))))

def ZkStatement.fromReceipt (receipt : RgkReceipt) (receiptId : Bytes32) : ZkStatement :=
  ⟨receipt.oldState.stateDigest, receipt.newState.stateDigest, receipt.oldState.assetId,
    receipt.covenantId, receipt.chainId, receiptId, receipt.transitionDigest,
    receipt.continuationCommitment⟩

def ZkStatement.matches (s : ZkStatement) (receipt : RgkReceipt) (receiptId : Bytes32) : Bool :=
  s = .fromReceipt receipt receiptId

end Statement

section Receipts

def maxProofBytes : ℕ := 1024*64

/-- Bytes of a proof that passed the constructor. -/
structure ZkProof where
  tag : ZkTag
  proofBytes : List UInt8
  deriving DecidableEq

def ZkProof.new (tag : ZkTag) (proofBytes : List UInt8) : Except ZkError ZkProof := do
  failIf (tag ≠ .groth16) (.unsupportedTag tag)
  failIf (proofBytes = []) .missingProof
  failIf (maxProofBytes < proofBytes.length) (.proofTooLong proofBytes.length maxProofBytes)
  .ok ⟨tag, proofBytes⟩

def ZkProof.encodeForPrecompile (proof : ZkProof) : List UInt8 :=
  proof.tag.asByte :: proof.proofBytes

structure ZkReceipt where
  statement : ZkStatement
  proof : ZkProof
  deriving DecidableEq

def ZkReceipt.build (receipt : RgkReceipt) (receiptId : Bytes32) (proof : ZkProof) :
    Except ZkError ZkReceipt := do
  failIf (receipt.proofMode ≠ .zkReceipt) (.wrongMode receipt.proofMode)
  .ok ⟨.fromReceipt receipt receiptId, proof⟩

def ZkReceipt.verifyLocal (zk : ZkReceipt) (receipt : RgkReceipt) (receiptId : Bytes32) :
    Except ZkError (List UInt8) := do
  failIf (receipt.proofMode ≠ .zkReceipt) (.wrongMode receipt.proofMode)
  failIf (zk.statement.matches receipt receiptId = false) .statementMismatch
  failIf (zk.statement.publicInputs.length ≠ zkPublicInputLen)
    (.publicInputTooLong zk.statement.publicInputs.length zkPublicInputLen)
  .ok zk.proof.encodeForPrecompile

end Receipts

section Circuit
variable (H : List UInt8 → Bytes32)

/-- The circuit before synthesis. A verifying key is made from one such circuit. -/
structure ReceiptCircuit where
  publicInputs : List UInt8
  witness : List UInt8
  deriving DecidableEq

def ReceiptCircuit.fromReceipt (receipt : RgkReceipt) (receiptId : Bytes32) : ReceiptCircuit :=
  ⟨(ZkStatement.fromReceipt receipt receiptId).publicInputs, RgkReceipt.encodeBody receipt⟩

structure ReceiptBodyOffsets where
  covenant : ℕ
  oldState : ℕ
  newState : ℕ
  transition : ℕ
  continuation : ℕ

/-- Where the fields stand behind the domain string. -/
def receiptBodyOffsets (body : List UInt8) : Except SynthesisError ReceiptBodyOffsets := do
  failIf (body.length < 4) .unsatisfiable
  let covenant := 4 + (u32OfLe (body.take 4)).toNat
  failIf (body.length ≠ covenant + 192) .unsatisfiable
  .ok ⟨covenant, covenant+32, covenant+64, covenant+96, covenant+128⟩

/-- The values of the variables: the public field elements and the witness bytes. -/
structure ByteAssignment (length : ℕ) where
  publicFrs : List Fr
  witness : List UInt8
  witness_length : witness.length = length

/-- Bytes that are packed into the public field elements from position `k` on. -/
def enforceBytesEqualPublicFrs (bytes : List UInt8) (publicFrs : List Fr) (k : ℕ) : Prop :=
  enforceFrsEqual (digestBytesAsFrs bytes) ((publicFrs.drop k).take 4)

instance decidableBytesEqualPublicFrs (bytes : List UInt8) (publicFrs : List Fr) (k : ℕ) :
    Decidable (enforceBytesEqualPublicFrs bytes publicFrs k) :=
  inferInstanceAs (Decidable (enforceFrsEqual _ _))

def ReceiptCircuit.generateConstraints (c : ReceiptCircuit)
    (a : ByteAssignment c.witness.length) : Except SynthesisError Bool := do
  failIf (c.publicInputs.length ≠ zkPublicInputLen) .unsatisfiable
  -- The offsets are read from the body that the circuit is built from, not from the assignment.
  let offsets ← receiptBodyOffsets c.witness
  let field (offset : ℕ) := slice a.witness offset (offset+32)
  .ok (decide (
    enforceBytesEqualPublicFrs (domainHashDigest H "rgk:receipt" a.witness) a.publicFrs 17 ∧
    enforceBytesEqualPublicFrs (field offsets.oldState) a.publicFrs 0 ∧
    enforceBytesEqualPublicFrs (field offsets.newState) a.publicFrs 4 ∧
    enforceBytesEqualPublicFrs (field offsets.covenant) a.publicFrs 12 ∧
    enforceBytesEqualPublicFrs (field offsets.transition) a.publicFrs 21 ∧
    enforceBytesEqualPublicFrs (field offsets.continuation) a.publicFrs 25))

/-- A proof for a statement under the key of a circuit, with the body that its prover knows. -/
def ReceiptCircuit.Proves (c : ReceiptCircuit) (s : ZkStatement) (body : List UInt8) : Prop :=
  ∃ a : ByteAssignment c.witness.length, c.generateConstraints H a = .ok true ∧
    a.publicFrs = publicInputsAsVars s.publicInputs ∧ a.witness = body

end Circuit

section Fields

lemma length_publicInputs (s : ZkStatement) : s.publicInputs.length = 232 := by
  simp [ZkStatement.publicInputs]

lemma slice_publicInputs (s : ZkStatement) :
    slice s.publicInputs 0 32 = s.oldStateDigest.toList ∧
      slice s.publicInputs 32 64 = s.newStateDigest.toList ∧
      slice s.publicInputs 96 128 = s.kaspaCovenantId.toList ∧
      slice s.publicInputs 136 168 = s.receiptId.toList ∧
      slice s.publicInputs 168 200 = s.transitionDigest.toList ∧
      slice s.publicInputs 200 232 = s.continuationCommitment.toList := by
  unfold ZkStatement.publicInputs
  refine ⟨slice_append_left (by simp), ?_, ?_, ?_, ?_, ?_⟩
  · simp [slice_append_right, slice_append_left]
  · simp [slice_append_right, slice_append_left]
  · simp [slice_append_right, slice_append_left]
  · simp [slice_append_right, slice_append_left]
  · simp [slice_append_right, slice_full]

/-- Four public field elements are equal to a packed field exactly if the bytes are. -/
lemma enforceBytesEqualPublicFrs_iff {s : ZkStatement} {bytes : List UInt8} {k : ℕ}
    (hlen : bytes.length = 32) (hk : k ≤ 25) :
    enforceBytesEqualPublicFrs bytes (publicInputsAsVars s.publicInputs) k ↔
      bytes = slice s.publicInputs (8*k) (8*(k+4)) := by
  have hwindow : 8*(k+4) ≤ s.publicInputs.length := by
    rw [length_publicInputs]
    omega
  rw [enforceBytesEqualPublicFrs, enforceFrsEqual, publicInputsAsVars, packBytes_window hwindow,
    digestBytesAsFrs]
  constructor
  · intro h
    refine packBytes_injective pow_le_bn254 ?_ h
    rw [hlen, length_slice hwindow]
    omega
  · rintro rfl
    rfl

end Fields

section Bodies

/-- The domain string of a receipt, behind its length. -/
def domainPart (r : RgkReceipt) : List UInt8 :=
  writeStr (domainString r.chainId r.oldState.receiptPolicy (some r.proofMode))

lemma length_encodeBody (r : RgkReceipt) :
    (RgkReceipt.encodeBody r).length = (domainPart r).length + 192 := by
  simp [RgkReceipt.encodeBody, domainPart]

lemma receiptBodyOffsets_encodeBody (r : RgkReceipt) :
    receiptBodyOffsets (RgkReceipt.encodeBody r) = .ok ⟨(domainPart r).length,
      (domainPart r).length + 32, (domainPart r).length + 64, (domainPart r).length + 96,
      (domainPart r).length + 128⟩ := by
  have hdomain := length_domainBytes_lt (r.chainId, r.oldState.receiptPolicy, r.proofMode)
  have hlen : (domainPart r).length = 4 +
      (domainBytes (r.chainId, r.oldState.receiptPolicy, r.proofMode)).length := by
    simp [domainPart, writeStr, domainBytes]
  have htake : (RgkReceipt.encodeBody r).take 4 = le32 (UInt32.ofNat
      (domainBytes (r.chainId, r.oldState.receiptPolicy, r.proofMode)).length) := by
    rw [RgkReceipt.encodeBody, writeStr, List.append_assoc]
    exact List.take_left' (length_le32 _)
  have hcovenant : 4 + (u32OfLe ((RgkReceipt.encodeBody r).take 4)).toNat =
      (domainPart r).length := by
    rw [htake, u32OfLe_le32, UInt32.toNat_ofNat', Nat.mod_eq_of_lt hdomain, hlen]
  rw [receiptBodyOffsets, unit_bind_eq_ok, failIf_eq_ok, hcovenant, unit_bind_eq_ok, failIf_eq_ok,
    length_encodeBody]
  exact ⟨by omega, not_not.mpr rfl, rfl⟩

/-- A field of the body, so many bytes behind the domain string. -/
def bodyField (r : RgkReceipt) (k : ℕ) : List UInt8 :=
  slice (RgkReceipt.encodeBody r) ((domainPart r).length + k) ((domainPart r).length + k + 32)

lemma bodyField_eq (r : RgkReceipt) :
    bodyField r 0 = r.covenantId.toList ∧ bodyField r 32 = r.oldState.stateDigest.toList ∧
      bodyField r 64 = r.newState.stateDigest.toList ∧
      bodyField r 96 = r.transitionDigest.toList ∧
      bodyField r 128 = r.continuationCommitment.toList := by
  have hshift : ∀ k, bodyField r k = slice (r.covenantId.toList ++
      (r.oldState.stateDigest.toList ++ (r.newState.stateDigest.toList ++
        (r.transitionDigest.toList ++ (r.continuationCommitment.toList ++
          r.replayNonce.toList))))) k (k + 32) := by
    intro k
    have hbody : RgkReceipt.encodeBody r = domainPart r ++ _ := rfl
    rw [bodyField, hbody, slice_append_right (by omega), Nat.add_assoc, Nat.add_sub_cancel_left,
      Nat.add_sub_cancel_left]
  refine ⟨(hshift 0).trans ?_, (hshift 32).trans ?_, (hshift 64).trans ?_, (hshift 96).trans ?_,
    (hshift 128).trans ?_⟩
  · exact slice_append_left r.covenantId.length_toList
  · simp [slice_append_right, slice_append_left]
  · simp [slice_append_right, slice_append_left]
  · simp [slice_append_right, slice_append_left]
  · simp [slice_append_right, slice_append_left]

end Bodies

section Meaning
variable {H : List UInt8 → Bytes32}

/-- The statement and the receipt agree on what the circuit compares. -/
structure Agrees (s : ZkStatement) (r : RgkReceipt) : Prop where
  oldState : s.oldStateDigest = r.oldState.stateDigest
  newState : s.newStateDigest = r.newState.stateDigest
  covenant : s.kaspaCovenantId = r.covenantId
  transition : s.transitionDigest = r.transitionDigest
  continuation : s.continuationCommitment = r.continuationCommitment

lemma generateConstraints_encodeBody {key r : RgkReceipt} {keyId : Bytes32} {s : ZkStatement}
    {a : ByteAssignment (ReceiptCircuit.fromReceipt key keyId).witness.length}
    (hfrs : a.publicFrs = publicInputsAsVars s.publicInputs)
    (hbody : a.witness = RgkReceipt.encodeBody r)
    (hdomain : (domainPart key).length = (domainPart r).length) :
    (ReceiptCircuit.fromReceipt key keyId).generateConstraints H a = .ok true ↔
      s.receiptId = receiptCommitment H r ∧ Agrees s r := by
  obtain ⟨hold, hnew, hcovenant, hid, htransition, hcontinuation⟩ := slice_publicInputs s
  obtain ⟨bcovenant, bold, bnew, btransition, bcontinuation⟩ := bodyField_eq r
  unfold bodyField at bcovenant bold bnew btransition bcontinuation
  rw [Nat.add_zero] at bcovenant
  have hfield : ∀ {b : Bytes32} {k : ℕ}, k ≤ 25 →
      (enforceBytesEqualPublicFrs b.toList (publicInputsAsVars s.publicInputs) k ↔
        b.toList = slice s.publicInputs (8*k) (8*(k+4))) := fun hk =>
    enforceBytesEqualPublicFrs_iff (Bytes.length_toList _) hk
  rw [ReceiptCircuit.generateConstraints, unit_bind_eq_ok, failIf_eq_ok, bind_eq_ok]
  simp only [ReceiptCircuit.fromReceipt, length_publicInputs, receiptBodyOffsets_encodeBody,
    Except.ok.injEq, exists_eq_left', decide_eq_true_eq, hfrs, hbody, hdomain, bcovenant, bold, bnew,
    btransition, bcontinuation, domainHashDigest, zkPublicInputLen, ne_eq, not_true, not_false_iff,
    true_and]
  rw [hfield (by omega), hfield (by omega), hfield (by omega), hfield (by omega),
    hfield (by omega), hfield (by omega), hold, hnew, hcovenant, hid, htransition, hcontinuation]
  simp only [Bytes.toList_inj]
  constructor
  · rintro ⟨h1, h2, h3, h4, h5, h6⟩
    exact ⟨h1.symm, h2.symm, h3.symm, h4.symm, h5.symm, h6.symm⟩
  · rintro ⟨h1, h2, h3, h4, h5, h6⟩
    exact ⟨h1.symm, h2.symm, h3.symm, h4.symm, h5.symm, h6.symm⟩

/-- What the key of one receipt's circuit proves with the body of another receipt. -/
lemma proves_encodeBody {key r : RgkReceipt} {keyId : Bytes32} {s : ZkStatement} :
    (ReceiptCircuit.fromReceipt key keyId).Proves H s (RgkReceipt.encodeBody r) ↔
      (domainPart key).length = (domainPart r).length ∧ s.receiptId = receiptCommitment H r ∧
        Agrees s r := by
  constructor
  · rintro ⟨a, hgen, hfrs, hbody⟩
    have hlen := a.witness_length
    rw [hbody, length_encodeBody, ReceiptCircuit.fromReceipt, length_encodeBody] at hlen
    have hdomain : (domainPart key).length = (domainPart r).length := by omega
    exact ⟨hdomain, (generateConstraints_encodeBody hfrs hbody hdomain).mp hgen⟩
  · rintro ⟨hdomain, hagrees⟩
    have hlen : (RgkReceipt.encodeBody r).length =
        (ReceiptCircuit.fromReceipt key keyId).witness.length := by
      rw [length_encodeBody, ReceiptCircuit.fromReceipt, length_encodeBody, hdomain]
    exact ⟨⟨publicInputsAsVars s.publicInputs, _, hlen⟩,
      (generateConstraints_encodeBody rfl rfl hdomain).mpr hagrees, rfl, rfl⟩

/-- The receipt id of a proved statement is the hash of the body that the prover knows. -/
lemma receiptId_of_proves {c : ReceiptCircuit} {s : ZkStatement} {body : List UInt8}
    (h : c.Proves H s body) : domainHashStr H "rgk:receipt" body = s.receiptId := by
  obtain ⟨a, hgen, hfrs, rfl⟩ := h
  rw [ReceiptCircuit.generateConstraints, unit_bind_eq_ok, bind_eq_ok] at hgen
  obtain ⟨-, offsets, -, hgen⟩ := hgen
  rw [Except.ok.injEq, decide_eq_true_eq, hfrs] at hgen
  have hid := (enforceBytesEqualPublicFrs_iff (Bytes.length_toList _) (by omega)).mp hgen.1
  rw [(slice_publicInputs s).2.2.2.1] at hid
  exact Bytes.toList_inj.mp hid

end Meaning

/-- For the id of a receipt, the key of any receipt's circuit proves a statement exactly if the
prover knows the receipt's body, the two domain strings have one length, and the statement agrees
with the receipt on the two states, the covenant, the transition and the continuation. Nothing ties
the asset and the chain of the statement to the receipt but the local comparison. -/
theorem receipt_proof_leaves_asset_and_chain (H : List UInt8 → Bytes32) (key r : RgkReceipt)
    (keyId : Bytes32) (s : ZkStatement) (body : List UInt8) (proof : ZkProof)
    (hid : s.receiptId = receiptCommitment H r)
    (hfree : CollisionFree H {receiptPreimage r, taggedPreimage "rgk:receipt" body}) :
    ((ReceiptCircuit.fromReceipt key keyId).Proves H s body ↔
      body = RgkReceipt.encodeBody r ∧ (domainPart key).length = (domainPart r).length ∧
        s = { ZkStatement.fromReceipt r s.receiptId with
          assetId := s.assetId, chainId := s.chainId }) ∧
    ((∃ out, ZkReceipt.verifyLocal ⟨s, proof⟩ r s.receiptId = .ok out) ↔
      r.proofMode = .zkReceipt ∧ s = .fromReceipt r s.receiptId) := by
  have hagrees : Agrees s r ↔ s = { ZkStatement.fromReceipt r s.receiptId with
      assetId := s.assetId, chainId := s.chainId } := by
    obtain ⟨old, new, asset, covenant, chain, id, transition, continuation⟩ := s
    rw [ZkStatement.fromReceipt, ZkStatement.mk.injEq]
    constructor
    · rintro ⟨h1, h2, h3, h4, h5⟩
      exact ⟨h1, h2, rfl, h3, rfl, rfl, h4, h5⟩
    · rintro ⟨h1, h2, -, h3, -, -, h4, h5⟩
      exact ⟨h1, h2, h3, h4, h5⟩
  constructor
  · constructor
    · intro h
      have hbody : body = RgkReceipt.encodeBody r :=
        payload_eq_of_domainHashStr_eq hfree (Or.inr rfl) (Or.inl rfl)
          ((receiptId_of_proves h).trans hid)
      subst hbody
      obtain ⟨hdomain, -, hs⟩ := proves_encodeBody.mp h
      exact ⟨rfl, hdomain, hagrees.mp hs⟩
    · rintro ⟨rfl, hdomain, hs⟩
      exact proves_encodeBody.mpr ⟨hdomain, hid, hagrees.mpr hs⟩
  · simp only [ZkReceipt.verifyLocal, unit_bind_eq_ok, failIf_eq_ok, not_not, ZkStatement.matches,
      decide_eq_false_iff_not, length_publicInputs, zkPublicInputLen, Except.ok.injEq]
    constructor
    · rintro ⟨out, hmode, hs, -⟩
      exact ⟨hmode, hs⟩
    · rintro ⟨hmode, hs⟩
      exact ⟨_, hmode, hs, trivial, rfl⟩

section Samples

def sampleZkReceipt : RgkReceipt :=
  { sampleReceipt 0x44 1 with
    oldState := { sampleReceiptState 0x44 1 with receiptPolicy := .zkOrVerifier }
    newState := { sampleReceiptState 0x44 2 with receiptPolicy := .zkOrVerifier }
    proofMode := .zkReceipt }

/-- The statement of the sample receipt for another asset and another chain. -/
def sampleForgedStatement : ZkStatement :=
  { ZkStatement.fromReceipt sampleZkReceipt (receiptCommitment Sha256.digest sampleZkReceipt) with
    assetId := Bytes.fill 32 0x77, chainId := .kaspaMainnet }

end Samples

/-- The proof of a receipt serves the statement of another asset on another chain, which the local
comparison turns away. -/
theorem receipt_proof_leaves_asset_and_chain_sample :
    (ReceiptCircuit.fromReceipt sampleZkReceipt
        (receiptCommitment Sha256.digest sampleZkReceipt)).Proves Sha256.digest sampleForgedStatement
        (RgkReceipt.encodeBody sampleZkReceipt) ∧
      ¬ ∃ out, ZkReceipt.verifyLocal ⟨sampleForgedStatement, ⟨.groth16, [1]⟩⟩ sampleZkReceipt
        sampleForgedStatement.receiptId = .ok out := by
  have hfree : CollisionFree Sha256.digest {receiptPreimage sampleZkReceipt,
      taggedPreimage "rgk:receipt" (RgkReceipt.encodeBody sampleZkReceipt)} := by
    rintro x (rfl | rfl) y (rfl | rfl) -
    all_goals rfl
  obtain ⟨hproves, hlocal⟩ := receipt_proof_leaves_asset_and_chain Sha256.digest sampleZkReceipt
    sampleZkReceipt (receiptCommitment Sha256.digest sampleZkReceipt) sampleForgedStatement
    (RgkReceipt.encodeBody sampleZkReceipt) ⟨.groth16, [1]⟩ rfl hfree
  refine ⟨hproves.mpr ⟨rfl, rfl, rfl⟩, fun h => ?_⟩
  exact absurd (congrArg ZkStatement.assetId (hlocal.mp h).2) (by decide)

section Semantic

structure SemanticTransitionCircuit where
  publicInputs : List UInt8
  witness : List UInt8

def SemanticTransitionCircuit.fromStatement (s : SemanticTransitionStatement) :
    SemanticTransitionCircuit := ⟨s.publicInputs, s.publicInputs⟩

def SemanticTransitionCircuit.generateConstraints (c : SemanticTransitionCircuit)
    (a : ByteAssignment c.witness.length) : Except SynthesisError Bool := do
  failIf (c.publicInputs.length ≠ semanticPublicInputLen ∨
    c.witness.length ≠ semanticPublicInputLen) .unsatisfiable
  -- A check at synthesis: no constraint comes from it.
  let _ ← burnDigestEncoding c.publicInputs
  .ok (decide (enforceFrsEqual (digestBytesAsFrs a.witness) a.publicFrs ∧
    enforceSemanticLayout a.witness))

/-- A proof for a statement under the key of a circuit. -/
def SemanticTransitionCircuit.Proves (c : SemanticTransitionCircuit)
    (s : SemanticTransitionStatement) : Prop :=
  ∃ a : ByteAssignment c.witness.length, c.generateConstraints a = .ok true ∧
    a.publicFrs = publicInputsAsVars s.publicInputs

/-- The statement has an authorization exactly for a burn. -/
def BurnConsistent (s : SemanticTransitionStatement) : Prop :=
  s.burnedSupply = 0 ↔ s.burnAuthorizationCommitment = Bytes.zero

lemma burnDigestEncoding_iff {s : SemanticTransitionStatement} :
    (∃ burn, burnDigestEncoding s.publicInputs = .ok burn) ↔ BurnConsistent s := by
  refine ⟨?_, burnDigestEncoding_of_fields⟩
  rintro ⟨burn, h⟩
  rcases burnDigestEncoding_inv h with ⟨-, ha, hc⟩ | ⟨b, -, hza, hzc, ha, hc⟩
  · simp only [SemanticStatement.slice_publicInputs, zero_eight_toList, le64_inj,
      Bytes.toList_inj] at ha hc
    exact iff_of_true ha hc
  · simp only [SemanticStatement.slice_publicInputs, Bytes.toList_inj] at ha hc
    refine iff_of_false (fun hz => ?_) (hc ▸ hzc)
    rw [hz] at ha
    exact hza (Bytes.ext ha.symm)

/-- The burn is checked for the statement that the circuit is made from, the layout for the one that
is proved. -/
lemma proves_iff_layout (key s : SemanticTransitionStatement) :
    (SemanticTransitionCircuit.fromStatement key).Proves s ↔
      BurnConsistent key ∧ enforceSemanticLayout s.publicInputs := by
  have hlen : ∀ s : SemanticTransitionStatement, s.publicInputs.length = 512 :=
    SemanticStatement.length_publicInputs
  rw [← burnDigestEncoding_iff]
  constructor
  · rintro ⟨a, hgen, hfrs⟩
    rw [SemanticTransitionCircuit.generateConstraints, unit_bind_eq_ok, bind_eq_ok] at hgen
    obtain ⟨-, burn, hburn, hgen⟩ := hgen
    rw [Except.ok.injEq, decide_eq_true_eq, hfrs] at hgen
    have hwitness : a.witness = s.publicInputs := by
      refine packBytes_injective pow_le_bn254 ?_ hgen.1
      rw [a.witness_length, hlen s]
      exact hlen key
    exact ⟨⟨burn, hburn⟩, hwitness ▸ hgen.2⟩
  · rintro ⟨⟨burn, hburn⟩, hlayout⟩
    refine ⟨⟨publicInputsAsVars s.publicInputs, s.publicInputs, (hlen s).trans (hlen key).symm⟩,
      ?_, rfl⟩
    rw [SemanticTransitionCircuit.generateConstraints, unit_bind_eq_ok, failIf_eq_ok, bind_eq_ok]
    refine ⟨not_or.mpr ⟨not_not.mpr (hlen key), not_not.mpr (hlen key)⟩, burn, hburn, ?_⟩
    rw [Except.ok.injEq, decide_eq_true_eq]
    exact ⟨rfl, hlayout⟩

lemma validStatement_of_layout {s : SemanticTransitionStatement}
    (h : enforceSemanticLayout s.publicInputs) (hbound : s.spentSupply ≤ s.totalSupply)
    (hburn : BurnConsistent s) : ValidStatement s := by
  simp only [enforceSemanticLayout, SemanticStatement.slice_publicInputs, byteAt_privacyPolicy,
    enforceNonzeroBytes_toList, enforceNonzeroBytes_le64, add_leBytesAsFr_iff, Bytes.toList_inj,
    ne_eq] at h
  obtain ⟨-, h1, h2, h3, h4, hmoves, h5, h6, h7, h8, h9, h10, h11, h12, hhandoff, htotal, hcount, -,
    -, hspent, hconserved, hallocates, hsupplies⟩ := h
  have hnew : s.newSupply ≤ s.totalSupply := by
    rw [UInt64.le_iff_toNat_le] at hbound ⊢
    omega
  exact ⟨h1, h2, h3, h4, h5, h6, h7, h8, h9, h10, h11, h12, hhandoff, hmoves, htotal, hcount, hspent,
    hbound, hnew, hconserved.symm, hallocates, hsupplies, hburn⟩

end Semantic

/-- A statement validates exactly if its own circuit proves it and it spends no more than the total
supply. The key of another statement's circuit serves as well, but then that an authorization comes
exactly with a burn is no part of what the proof shows. -/
theorem semantic_validation_iff_proof_and_bounds (s : SemanticTransitionStatement) :
    (s.validate = .ok () ↔ (SemanticTransitionCircuit.fromStatement s).Proves s ∧
      s.spentSupply ≤ s.totalSupply) ∧
    (s.validate = .ok () ↔ (∃ key, (SemanticTransitionCircuit.fromStatement key).Proves s) ∧
      s.spentSupply ≤ s.totalSupply ∧ BurnConsistent s) := by
  have hkey : (∃ key, (SemanticTransitionCircuit.fromStatement key).Proves s) ↔
      enforceSemanticLayout s.publicInputs := by
    simp only [proves_iff_layout]
    refine ⟨fun ⟨_, _, hlayout⟩ => hlayout, fun hlayout => ?_⟩
    -- a statement without a burn has a circuit
    exact ⟨{ s with burnedSupply := 0, burnAuthorizationCommitment := Bytes.zero },
      iff_of_true rfl rfl, hlayout⟩
  have hvalid : s.validate = .ok () ↔ enforceSemanticLayout s.publicInputs ∧
      s.spentSupply ≤ s.totalSupply ∧ BurnConsistent s := by
    constructor
    · intro h
      have hvalid := SemanticTransitionStatement.validate_eq_ok.mp h
      exact ⟨enforceSemanticLayout_of_validate h, hvalid.spent_le, hvalid.burn⟩
    · rintro ⟨hlayout, hbound, hburn⟩
      exact SemanticTransitionStatement.validate_eq_ok.mpr
        (validStatement_of_layout hlayout hbound hburn)
  rw [hkey, proves_iff_layout]
  exact ⟨hvalid.trans (by tauto), hvalid⟩

end RgkProtocol.ZkReceipts
