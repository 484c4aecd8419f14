import RgkProtocol.CovenantSpend

/-!
# Covenant payloads and execution records

The two byte layouts of a covenant that are read back: the state payload, and the record of an
advanced covenant action with its policy shape and the evidence for it. The reader of a record
builds the plan anew from the shape and the evidence, so that the commitments it has read can
only be the ones the plan derives.
-/
namespace RgkProtocol.CovenantCodec
open ByteStrings Hashing CoreTypes Checked Codec CanonicalEncoding
open CovenantScript
open CovenantSpend (length_encodePayload)

section Shapes

def rejectZero32 (field : String) (bytes : Bytes32) : Except CovenantError Unit :=
  failIf (bytes = Bytes.zero) (.zeroAdvancedCovenantField field)

structure AdvancedCovenantPolicyShape where
  chainId : KaspaChainId
  assetId : Bytes32
  lineageId : Bytes32
  flow : AdvancedCovenantFlow
  covenantId : Bytes32
  counterpartyCovenantId : Bytes32
  paymentAssetId : Bytes32
  paymentAmount : UInt64
  unlockDaaScore : UInt64
  policyCommitment : Bytes32
  authorizationCommitment : Bytes32
  deriving DecidableEq

namespace AdvancedCovenantPolicyShape
variable (shape : AdvancedCovenantPolicyShape)

def requireNonzero (field : String) (bytes : Bytes32) : Except CovenantError Unit :=
  failIf (bytes = Bytes.zero) (.missingAdvancedCovenantField shape.flow field)

def requireCounterparty : Except CovenantError Unit :=
  shape.requireNonzero "counterparty_covenant_id" shape.counterpartyCovenantId

def requirePayment : Except CovenantError Unit := do
  shape.requireNonzero "payment_asset_id" shape.paymentAssetId
  failIf (shape.paymentAmount = 0) (.missingAdvancedCovenantField shape.flow "payment_amount")

def requireUnlock : Except CovenantError Unit :=
  failIf (shape.unlockDaaScore = 0) (.missingAdvancedCovenantField shape.flow "unlock_daa_score")

def requirePolicyCommitment : Except CovenantError Unit :=
  shape.requireNonzero "policy_commitment" shape.policyCommitment

/-- The fields that a flow cannot do without. -/
def requireFlowFields : Except CovenantError Unit :=
  match shape.flow with
  | .paymentGatedTransfer => do
      shape.requireCounterparty
      shape.requirePayment
  | .escrowRelease => do
      shape.requireCounterparty
      shape.requirePolicyCommitment
  | .vaultTimelockRelease => do
      shape.requireUnlock
      shape.requirePolicyCommitment
  | .atomicSwap => do
      shape.requireCounterparty
      shape.requirePayment
      shape.requireUnlock
  | .covenantOwnedAsset => do
      shape.requireCounterparty
      shape.requirePolicyCommitment
  | .policyUpgrade | .controlledTermination => shape.requirePolicyCommitment

def validate : Except CovenantError Unit := do
  rejectZero32 "asset_id" shape.assetId
  rejectZero32 "lineage_id" shape.lineageId
  rejectZero32 "covenant_id" shape.covenantId
  rejectZero32 "authorization_commitment" shape.authorizationCommitment
  shape.requireFlowFields

def encode : List UInt8 :=
  KaspaChainId.encode shape.chainId ++ (shape.assetId.toList ++ (shape.lineageId.toList ++
    ([shape.flow.tag] ++ (shape.covenantId.toList ++ (shape.counterpartyCovenantId.toList ++
      (shape.paymentAssetId.toList ++ (le64 shape.paymentAmount ++ (le64 shape.unlockDaaScore ++
        (shape.policyCommitment.toList ++ shape.authorizationCommitment.toList)))))))))

/-- The commitment hashes the fields in the order of the record. -/
def commitment (H : List UInt8 → Bytes32) : Except CovenantError Bytes32 := do
  shape.validate
  .ok (domainHashStr H "rgk:advanced-covenant-policy:v1" shape.encode)

end AdvancedCovenantPolicyShape

end Shapes

section Evidence

structure AdvancedCovenantExecutionEvidence where
  counterpartyCovenantId : Bytes32
  paymentAssetId : Bytes32
  paidAmount : UInt64
  currentDaaScore : UInt64
  policyCommitment : Bytes32
  authorizationCommitment : Bytes32
  deriving DecidableEq

namespace AdvancedCovenantExecutionEvidence
variable (evidence : AdvancedCovenantExecutionEvidence) (shape : AdvancedCovenantPolicyShape)

/-- A field of the evidence is the one the shape names. -/
def requireSame {α : Type} [DecidableEq α] (field : String) (actual required : α) :
    Except CovenantError Unit :=
  failIf (actual ≠ required) (.advancedCovenantExecutionMismatch shape.flow field)

def requireAuthorization : Except CovenantError Unit :=
  requireSame shape "authorization_commitment" evidence.authorizationCommitment
    shape.authorizationCommitment

def requireCounterparty : Except CovenantError Unit :=
  requireSame shape "counterparty_covenant_id" evidence.counterpartyCovenantId
    shape.counterpartyCovenantId

def requirePaymentAsset : Except CovenantError Unit :=
  requireSame shape "payment_asset_id" evidence.paymentAssetId shape.paymentAssetId

def requireExactPayment : Except CovenantError Unit :=
  requireSame shape "paid_amount" evidence.paidAmount shape.paymentAmount

def requireUnlock : Except CovenantError Unit :=
  failIf (evidence.currentDaaScore < shape.unlockDaaScore)
    (.advancedCovenantDaaTooEarly shape.flow shape.unlockDaaScore evidence.currentDaaScore)

def requirePolicyCommitment : Except CovenantError Unit :=
  requireSame shape "policy_commitment" evidence.policyCommitment shape.policyCommitment

/-- What a flow asks of the evidence. -/
def requireFlowEvidence : Except CovenantError Unit :=
  match shape.flow with
  | .paymentGatedTransfer => do
      evidence.requirePaymentAsset shape
      failIf (evidence.paidAmount < shape.paymentAmount)
        (.advancedCovenantPaymentTooSmall shape.flow shape.paymentAmount evidence.paidAmount)
  | .escrowRelease | .covenantOwnedAsset => do
      evidence.requireCounterparty shape
      evidence.requirePolicyCommitment shape
  | .vaultTimelockRelease => do
      evidence.requireUnlock shape
      evidence.requirePolicyCommitment shape
  | .atomicSwap => do
      evidence.requireCounterparty shape
      evidence.requirePaymentAsset shape
      evidence.requireExactPayment shape
      evidence.requireUnlock shape
      if shape.policyCommitment = Bytes.zero then .ok ()
      else evidence.requirePolicyCommitment shape
  | .policyUpgrade | .controlledTermination => evidence.requirePolicyCommitment shape

def validateForShape : Except CovenantError Unit := do
  shape.validate
  evidence.requireAuthorization shape
  evidence.requireFlowEvidence shape

def encode : List UInt8 :=
  evidence.counterpartyCovenantId.toList ++ (evidence.paymentAssetId.toList ++
    (le64 evidence.paidAmount ++ (le64 evidence.currentDaaScore ++
      (evidence.policyCommitment.toList ++ evidence.authorizationCommitment.toList))))

end AdvancedCovenantExecutionEvidence

end Evidence

section Records

structure AdvancedCovenantExecutionPlan where
  shape : AdvancedCovenantPolicyShape
  policyCommitment : Bytes32
  evidence : AdvancedCovenantExecutionEvidence
  executionCommitment : Bytes32
  deriving DecidableEq

structure AdvancedCovenantExecutionRecord where
  plan : AdvancedCovenantExecutionPlan
  deriving DecidableEq

variable (H : List UInt8 → Bytes32)

def advancedCovenantExecutionHash (policyCommitment : Bytes32)
    (shape : AdvancedCovenantPolicyShape) (evidence : AdvancedCovenantExecutionEvidence) :
    Bytes32 :=
  domainHashStr H "rgk:advanced-covenant-execution:v1"
    (policyCommitment.toList ++ ([shape.flow.tag] ++ (shape.covenantId.toList ++
      (shape.assetId.toList ++ (shape.lineageId.toList ++ evidence.encode)))))

def AdvancedCovenantExecutionPlan.new (shape : AdvancedCovenantPolicyShape)
    (evidence : AdvancedCovenantExecutionEvidence) :
    Except CovenantError AdvancedCovenantExecutionPlan := do
  let policyCommitment ← shape.commitment H
  evidence.validateForShape shape
  .ok ⟨shape, policyCommitment, evidence,
    advancedCovenantExecutionHash H policyCommitment shape evidence⟩

def AdvancedCovenantExecutionRecord.fromParts (shape : AdvancedCovenantPolicyShape)
    (evidence : AdvancedCovenantExecutionEvidence) :
    Except CovenantError AdvancedCovenantExecutionRecord := do
  let plan ← AdvancedCovenantExecutionPlan.new H shape evidence
  .ok ⟨plan⟩

/-- The text `rgk:ace:0` and three zero bytes. -/
def advancedCovenantExecutionRecordTag : Bytes 12 :=
  ⟨[0x72, 0x67, 0x6b, 0x3a, 0x61, 0x63, 0x65, 0x3a, 0x30, 0, 0, 0], rfl⟩

/-- The fields of a record behind its header. -/
def AdvancedCovenantExecutionPlan.encode (plan : AdvancedCovenantExecutionPlan) : List UInt8 :=
  plan.shape.encode ++ (plan.policyCommitment.toList ++ (plan.evidence.encode ++
    plan.executionCommitment.toList))

def AdvancedCovenantExecutionRecord.canonicalBytes (r : AdvancedCovenantExecutionRecord) :
    List UInt8 :=
  advancedCovenantExecutionRecordTag.toList ++ (le16 encodingVersion ++ r.plan.encode)

end Records

section Reading

def decodeErr (e : DecodeError) : CovenantError := .decode e.display

/-- Fields are read with the errors of the core reader, as text. -/
def field {α : Type} (r : Reader DecodeError α) : Reader CovenantError α := mapErr decodeErr r

def readBytes32 : Reader CovenantError Bytes32 := field (readArray .eof 32)

/-- The tag of the layout and the version of the encoding. -/
def readHeader (expected : Bytes 12) (badTag : String) : Reader CovenantError UInt16 := do
  let tag ← field (readArray .eof 12)
  check (failIf (tag ≠ expected) (.decode (badTag ++ toString tag.toList)))
  let version ← field (readU16 .eof)
  check (failIf (version ≠ encodingVersion) (.decode s!"unknown version {version}"))
  pure version

/-- Decode a byte string that is not too long, to its last byte. -/
def decodeWhole {α β : Type} (r : Reader CovenantError α) (k : α → Except CovenantError β)
    (buf : List UInt8) : Except CovenantError β := do
  failIf (buf.length > maxBlobBytes) (.payloadTooLong buf.length maxBlobBytes)
  runReader (do
    let a ← r
    ensureConsumed (fun remaining => decodeErr (.trailingBytes remaining))
    check (k a)) buf

def readState : Reader CovenantError CovenantState := do
  let version ← readHeader covenantStateTag "bad covenant tag: "
  let chainId ← field KaspaChainId.decode
  let lineageId ← readBytes32
  let assetId ← readBytes32
  let currentStateDigest ← readBytes32
  let receiptPolicy ← field ReceiptPolicy.decode
  let genesisProofMode ← field ProofMode.decode
  let replayMarker ← readBytes32
  pure ⟨version, chainId, lineageId, assetId, currentStateDigest, receiptPolicy, genesisProofMode,
    replayMarker⟩

def CovenantState.validate (s : CovenantState) : Except CovenantError Unit := do
  let version := s.version
  failIf (s.version ≠ encodingVersion) (.decode s!"unknown version {version}")
  rejectZero32 "lineage_id" s.lineageId
  rejectZero32 "asset_id" s.assetId

def CovenantState.decodePayload : List UInt8 → Except CovenantError CovenantState :=
  decodeWhole readState (fun s => do
    CovenantState.validate s
    .ok s)

def decodeAdvancedCovenantPolicyShape : Reader CovenantError AdvancedCovenantPolicyShape := do
  let chainId ← field KaspaChainId.decode
  let assetId ← readBytes32
  let lineageId ← readBytes32
  let flow ← (do
    let tag ← field (readU8 .eof)
    check (AdvancedCovenantFlow.fromTag tag))
  let covenantId ← readBytes32
  let counterpartyCovenantId ← readBytes32
  let paymentAssetId ← readBytes32
  let paymentAmount ← field (readU64 .eof)
  let unlockDaaScore ← field (readU64 .eof)
  let policyCommitment ← readBytes32
  let authorizationCommitment ← readBytes32
  pure ⟨chainId, assetId, lineageId, flow, covenantId, counterpartyCovenantId, paymentAssetId,
    paymentAmount, unlockDaaScore, policyCommitment, authorizationCommitment⟩

def decodeAdvancedCovenantExecutionEvidence :
    Reader CovenantError AdvancedCovenantExecutionEvidence := do
  let counterpartyCovenantId ← readBytes32
  let paymentAssetId ← readBytes32
  let paidAmount ← field (readU64 .eof)
  let currentDaaScore ← field (readU64 .eof)
  let policyCommitment ← readBytes32
  let authorizationCommitment ← readBytes32
  pure ⟨counterpartyCovenantId, paymentAssetId, paidAmount, currentDaaScore, policyCommitment,
    authorizationCommitment⟩

/-- The plan as it stands in the record, with the commitments not yet checked. -/
def readPlan : Reader CovenantError AdvancedCovenantExecutionPlan := do
  let _ ← readHeader advancedCovenantExecutionRecordTag
    "bad advanced covenant execution record tag: "
  let shape ← decodeAdvancedCovenantPolicyShape
  let policyCommitment ← readBytes32
  let evidence ← decodeAdvancedCovenantExecutionEvidence
  let executionCommitment ← readBytes32
  pure ⟨shape, policyCommitment, evidence, executionCommitment⟩

def AdvancedCovenantExecutionRecord.decodeCanonical (H : List UInt8 → Bytes32) :
    List UInt8 → Except CovenantError AdvancedCovenantExecutionRecord :=
  decodeWhole readPlan (fun read => do
    let plan ← AdvancedCovenantExecutionPlan.new H read.shape read.evidence
    failIf (plan.policyCommitment ≠ read.policyCommitment)
      (.decode "advanced covenant policy commitment mismatch")
    failIf (plan.executionCommitment ≠ read.executionCommitment)
      (.decode "advanced covenant execution commitment mismatch")
    .ok ⟨plan⟩)

end Reading

section Exactness

lemma exact_bytes32 : Exact readBytes32 Bytes.toList (fun _ => True) := (exact_readArray 32).mapErr

lemma exact_u64 : Exact (field (readU64 .eof)) le64 (fun _ => True) := exact_readU64.mapErr

lemma exact_chain : Exact (field KaspaChainId.decode) KaspaChainId.encode (fun _ => True) :=
  exact_chainId.mapErr

lemma exact_flow : Exact (do
    let tag ← field (readU8 .eof)
    check (AdvancedCovenantFlow.fromTag tag)) (fun flow => [flow.tag]) (fun _ => True) :=
  (exact_readU8.mapErr).checked (fun _ _ => by rw [AdvancedCovenantFlow.fromTag_eq_ok])

lemma exact_header (expected : Bytes 12) (badTag : String) :
    Exact (readHeader expected badTag) (fun version => expected.toList ++ le16 version)
      (fun version => version = encodingVersion) := by
  intro bs version rest
  have htag : Exact (field (readArray .eof 12)) Bytes.toList (fun _ => True) :=
    (exact_readArray 12).mapErr
  have hversion : Exact (field (readU16 .eof)) le16 (fun _ => True) := exact_readU16.mapErr
  simp only [readHeader, htag.bind_eq_ok, hversion.bind_eq_ok, check_bind_eq_ok, failIf_eq_ok,
    reader_pure_eq_ok, not_not, true_and, exists_const, List.append_assoc]
  constructor
  · rintro ⟨_, _, rfl, rfl, _, _, rfl, hv, rfl, rfl⟩
    exact ⟨hv, rfl⟩
  · rintro ⟨hv, hbs⟩
    exact ⟨expected, _, hbs, rfl, version, rest, rfl, hv, rfl, rfl⟩

lemma exact_state : Exact readState CovenantState.encodePayload
    (fun s => s.version = encodingVersion) := by
  intro bs s rest
  have hpolicy : Exact (field ReceiptPolicy.decode) ReceiptPolicy.encode (fun _ => True) :=
    exact_receiptPolicy.mapErr
  have hmode : Exact (field ProofMode.decode) ProofMode.encode (fun _ => True) :=
    exact_proofMode.mapErr
  simp only [readState, CovenantState.encodePayload, (exact_header _ _).bind_eq_ok,
    exact_chain.bind_eq_ok, exact_bytes32.bind_eq_ok, hpolicy.bind_eq_ok, hmode.bind_eq_ok,
    reader_pure_eq_ok, true_and, List.append_assoc]
  constructor
  · rintro ⟨_, _, ⟨hv, rfl⟩, _, _, rfl, _, _, rfl, _, _, rfl, _, _, rfl, _, _, rfl, _, _, rfl, _, _,
      rfl, rfl, rfl⟩
    exact ⟨hv, rfl⟩
  · rintro ⟨hv, hbs⟩
    exact ⟨_, _, ⟨hv, hbs⟩, _, _, rfl, _, _, rfl, _, _, rfl, _, _, rfl, _, _, rfl, _, _, rfl, _, _,
      rfl, rfl, rfl⟩

lemma exact_shape : Exact decodeAdvancedCovenantPolicyShape AdvancedCovenantPolicyShape.encode
    (fun _ => True) := by
  intro bs shape rest
  simp only [decodeAdvancedCovenantPolicyShape, AdvancedCovenantPolicyShape.encode,
    exact_chain.bind_eq_ok, exact_bytes32.bind_eq_ok, exact_flow.bind_eq_ok, exact_u64.bind_eq_ok,
    reader_pure_eq_ok, true_and, List.append_assoc]
  constructor
  · rintro ⟨_, _, rfl, _, _, rfl, _, _, rfl, _, _, rfl, _, _, rfl, _, _, rfl, _, _, rfl, _, _, rfl,
      _, _, rfl, _, _, rfl, _, _, rfl, rfl, rfl⟩
    rfl
  · intro hbs
    exact ⟨_, _, hbs, _, _, rfl, _, _, rfl, _, _, rfl, _, _, rfl, _, _, rfl, _, _, rfl, _, _, rfl,
      _, _, rfl, _, _, rfl, _, _, rfl, rfl, rfl⟩

lemma exact_evidence : Exact decodeAdvancedCovenantExecutionEvidence
    AdvancedCovenantExecutionEvidence.encode (fun _ => True) := by
  intro bs evidence rest
  simp only [decodeAdvancedCovenantExecutionEvidence, AdvancedCovenantExecutionEvidence.encode,
    exact_bytes32.bind_eq_ok, exact_u64.bind_eq_ok, reader_pure_eq_ok, true_and, List.append_assoc]
  constructor
  · rintro ⟨_, _, rfl, _, _, rfl, _, _, rfl, _, _, rfl, _, _, rfl, _, _, rfl, rfl, rfl⟩
    rfl
  · intro hbs
    exact ⟨_, _, hbs, _, _, rfl, _, _, rfl, _, _, rfl, _, _, rfl, _, _, rfl, rfl, rfl⟩

lemma exact_plan : Exact readPlan
    (fun plan => AdvancedCovenantExecutionRecord.canonicalBytes ⟨plan⟩) (fun _ => True) := by
  intro bs plan rest
  simp only [readPlan, AdvancedCovenantExecutionRecord.canonicalBytes,
    AdvancedCovenantExecutionPlan.encode, (exact_header _ _).bind_eq_ok, exact_shape.bind_eq_ok,
    exact_bytes32.bind_eq_ok, exact_evidence.bind_eq_ok, reader_pure_eq_ok, true_and,
    List.append_assoc]
  constructor
  · rintro ⟨_, _, ⟨rfl, rfl⟩, _, _, rfl, _, _, rfl, _, _, rfl, _, _, rfl, rfl, rfl⟩
    rfl
  · intro hbs
    exact ⟨_, _, ⟨rfl, hbs⟩, _, _, rfl, _, _, rfl, _, _, rfl, _, _, rfl, rfl, rfl⟩

lemma decodeWhole_eq_ok {α β : Type} {r : Reader CovenantError α} {enc : α → List UInt8}
    {Valid : α → Prop} (h : Exact r enc Valid) {k : α → Except CovenantError β} {buf : List UInt8}
    {b : β} : decodeWhole r k buf = .ok b ↔
      buf.length ≤ maxBlobBytes ∧ ∃ a, Valid a ∧ buf = enc a ∧ k a = .ok b := by
  rw [decodeWhole, unit_bind_eq_ok, failIf_eq_ok, not_lt, h.run_eq_ok]

end Exactness

section Canonical

lemma CovenantState.validate_version {s : CovenantState} (h : CovenantState.validate s = .ok ()) :
    s.version = encodingVersion :=
  not_not.mp (failIf_eq_ok.mp (unit_bind_eq_ok.mp h).1)

lemma CovenantState.decodePayload_eq_ok {buf : List UInt8} {s : CovenantState} :
    CovenantState.decodePayload buf = .ok s ↔
      CovenantState.validate s = .ok () ∧ buf = s.encodePayload := by
  rw [CovenantState.decodePayload, decodeWhole_eq_ok exact_state]
  constructor
  · rintro ⟨-, a, -, hbuf, h⟩
    obtain ⟨hv, ha⟩ := unit_bind_eq_ok.mp h
    obtain rfl := Except.ok.inj ha
    exact ⟨hv, hbuf⟩
  · rintro ⟨hv, rfl⟩
    refine ⟨?_, s, validate_version hv, rfl, unit_bind_eq_ok.mpr ⟨hv, rfl⟩⟩
    rw [length_encodePayload]
    decide

lemma length_canonicalBytes (r : AdvancedCovenantExecutionRecord) :
    r.canonicalBytes.length = 465 := by
  simp [AdvancedCovenantExecutionRecord.canonicalBytes, AdvancedCovenantExecutionPlan.encode,
    AdvancedCovenantPolicyShape.encode, AdvancedCovenantExecutionEvidence.encode,
    KaspaChainId.encode]

lemma AdvancedCovenantExecutionRecord.fromParts_eq_ok {H : List UInt8 → Bytes32}
    {shape : AdvancedCovenantPolicyShape} {evidence : AdvancedCovenantExecutionEvidence}
    {r : AdvancedCovenantExecutionRecord} :
    AdvancedCovenantExecutionRecord.fromParts H shape evidence = .ok r ↔
      AdvancedCovenantExecutionPlan.new H shape evidence = .ok r.plan := by
  obtain ⟨plan⟩ := r
  simp [AdvancedCovenantExecutionRecord.fromParts, bind_eq_ok]

lemma AdvancedCovenantExecutionPlan.new_parts {H : List UInt8 → Bytes32}
    {shape : AdvancedCovenantPolicyShape} {evidence : AdvancedCovenantExecutionEvidence}
    {plan : AdvancedCovenantExecutionPlan}
    (h : AdvancedCovenantExecutionPlan.new H shape evidence = .ok plan) :
    plan.shape = shape ∧ plan.evidence = evidence := by
  obtain ⟨c, -, h⟩ := bind_eq_ok.mp h
  obtain ⟨-, h⟩ := unit_bind_eq_ok.mp h
  obtain rfl := Except.ok.inj h
  exact ⟨rfl, rfl⟩

/-- A record is read exactly as the bytes of the record that its own shape and evidence make. -/
lemma AdvancedCovenantExecutionRecord.decodeCanonical_eq_ok {H : List UInt8 → Bytes32}
    {buf : List UInt8} {r : AdvancedCovenantExecutionRecord} :
    AdvancedCovenantExecutionRecord.decodeCanonical H buf = .ok r ↔
      AdvancedCovenantExecutionRecord.fromParts H r.plan.shape r.plan.evidence = .ok r ∧
        buf = r.canonicalBytes := by
  rw [AdvancedCovenantExecutionRecord.decodeCanonical, decodeWhole_eq_ok exact_plan,
    fromParts_eq_ok]
  constructor
  · rintro ⟨-, read, -, hbuf, h⟩
    obtain ⟨plan, hplan, h⟩ := bind_eq_ok.mp h
    obtain ⟨hpolicy, h⟩ := unit_bind_eq_ok.mp h
    obtain ⟨hexec, h⟩ := unit_bind_eq_ok.mp h
    obtain rfl := Except.ok.inj h
    obtain ⟨hshape, hevidence⟩ := AdvancedCovenantExecutionPlan.new_parts hplan
    -- the four fields read are the four of the plan that was built
    have hread : plan = read := by
      cases plan
      cases read
      simp_all
    subst hread
    exact ⟨hplan, hbuf⟩
  · rintro ⟨hplan, rfl⟩
    refine ⟨?_, r.plan, trivial, rfl, ?_⟩
    · rw [length_canonicalBytes]
      decide
    · exact bind_eq_ok.mpr ⟨r.plan, hplan, by simp [unit_bind_eq_ok]⟩

/-- Both layouts are canonical: a value is read back from its own bytes exactly when it is valid,
a record when it is the one built from its own parts, and nothing but these bytes reads as it. -/
theorem covenant_codecs_canonical (H : List UInt8 → Bytes32) :
    (∀ s : CovenantState, CovenantState.decodePayload s.encodePayload = .ok s ↔
      CovenantState.validate s = .ok ()) ∧
    (∀ (buf : List UInt8) (s : CovenantState),
      CovenantState.decodePayload buf = .ok s → s.encodePayload = buf) ∧
    (∀ r : AdvancedCovenantExecutionRecord,
      AdvancedCovenantExecutionRecord.decodeCanonical H r.canonicalBytes = .ok r ↔
        AdvancedCovenantExecutionRecord.fromParts H r.plan.shape r.plan.evidence = .ok r) ∧
    ∀ (buf : List UInt8) (r : AdvancedCovenantExecutionRecord),
      AdvancedCovenantExecutionRecord.decodeCanonical H buf = .ok r → r.canonicalBytes = buf := by
  refine ⟨fun s => ?_, fun buf s h => ?_, fun r => ?_, fun buf r h => ?_⟩
  · rw [CovenantState.decodePayload_eq_ok, and_iff_left rfl]
  · exact (CovenantState.decodePayload_eq_ok.mp h).2.symm
  · rw [AdvancedCovenantExecutionRecord.decodeCanonical_eq_ok, and_iff_left rfl]
  · exact (AdvancedCovenantExecutionRecord.decodeCanonical_eq_ok.mp h).2.symm

def sampleState : CovenantState :=
  ⟨encodingVersion, .kaspaLocalToccata, Bytes.fill 32 1, Bytes.fill 32 2, Bytes.zero, .any,
    .verifierReceipt, Bytes.zero⟩

/-- An atomic swap that names no policy. -/
def sampleShape : AdvancedCovenantPolicyShape :=
  ⟨.kaspaTestnet, Bytes.fill 32 1, Bytes.fill 32 2, .atomicSwap, Bytes.fill 32 3, Bytes.fill 32 4,
    Bytes.fill 32 5, 100, 7, Bytes.zero, Bytes.fill 32 6⟩

def sampleEvidence : AdvancedCovenantExecutionEvidence :=
  ⟨Bytes.fill 32 4, Bytes.fill 32 5, 100, 8, Bytes.zero, Bytes.fill 32 6⟩

theorem covenant_codecs_canonical_sample :
    (∃ buf, CovenantState.decodePayload buf = .ok sampleState ∧ sampleState.encodePayload = buf) ∧
    ∃ r buf, AdvancedCovenantExecutionRecord.fromParts Sha256.digest sampleShape sampleEvidence =
        .ok r ∧
      AdvancedCovenantExecutionRecord.decodeCanonical Sha256.digest buf = .ok r ∧
      r.canonicalBytes = buf := by
  obtain ⟨hstate, hpayload, hrecord, hbytes⟩ := covenant_codecs_canonical Sha256.digest
  have hs := (hstate sampleState).mpr (by decide)
  have hsome : (AdvancedCovenantExecutionRecord.fromParts Sha256.digest sampleShape
      sampleEvidence).toOption.isSome = true := by decide +kernel
  obtain ⟨r, hr⟩ := exists_ok_of_isSome hsome
  have hparts : r.plan.shape = sampleShape ∧ r.plan.evidence = sampleEvidence := by
    obtain ⟨plan, hplan, hok⟩ := bind_eq_ok.mp hr
    obtain ⟨policyCommitment, -, hplan⟩ := bind_eq_ok.mp hplan
    obtain ⟨-, hplan⟩ := unit_bind_eq_ok.mp hplan
    obtain rfl := Except.ok.inj hplan
    obtain rfl := Except.ok.inj hok
    exact ⟨rfl, rfl⟩
  have hdecode := (hrecord r).mpr (by rw [hparts.1, hparts.2, hr])
  exact ⟨⟨_, hs, hpayload _ _ hs⟩, r, _, hr, hdecode, hbytes _ _ hdecode⟩

end Canonical
end RgkProtocol.CovenantCodec
