import RgkProtocol.CovenantCodec

/-!
# Execution evidence against its policy shape

Which material a flow cannot do without is read off the shapes that are valid, and which of it the
evidence has to meet is decided by another table. The two agree on every flow but the payment-gated
transfer, whose counterparty is asked of the shape and never of the evidence.
-/
namespace RgkProtocol.ExecutionEvidence
open ByteStrings Hashing CoreTypes Checked CovenantScript CovenantCodec

section Materials

/-- What a flow can depend on. -/
inductive Material where
  | counterparty
  | payment
  | unlock
  | policyCommitment
  deriving DecidableEq, Repr

def Has (shape : AdvancedCovenantPolicyShape) : Material → Prop
  | .counterparty => shape.counterpartyCovenantId ≠ Bytes.zero
  | .payment => shape.paymentAssetId ≠ Bytes.zero ∧ shape.paymentAmount ≠ 0
  | .unlock => shape.unlockDaaScore ≠ 0
  | .policyCommitment => shape.policyCommitment ≠ Bytes.zero

def Meets (evidence : AdvancedCovenantExecutionEvidence) (shape : AdvancedCovenantPolicyShape) :
    Material → Prop
  | .counterparty => evidence.counterpartyCovenantId = shape.counterpartyCovenantId
  | .payment => evidence.paymentAssetId = shape.paymentAssetId ∧
      shape.paymentAmount ≤ evidence.paidAmount
  | .unlock => shape.unlockDaaScore ≤ evidence.currentDaaScore
  | .policyCommitment => evidence.policyCommitment = shape.policyCommitment

/-- No shape of the flow is valid without the material. -/
def Mandatory (flow : AdvancedCovenantFlow) (m : Material) : Prop :=
  ∀ shape : AdvancedCovenantPolicyShape, shape.flow = flow → shape.validate = .ok () → Has shape m

/-- The evidence carries the authorization of the shape and meets all that its flow cannot do
without. -/
def Strict (evidence : AdvancedCovenantExecutionEvidence) (shape : AdvancedCovenantPolicyShape) :
    Prop :=
  evidence.authorizationCommitment = shape.authorizationCommitment ∧
    ∀ m, Mandatory shape.flow m → Meets evidence shape m

/-- The table behind the checks of a shape. -/
def required : AdvancedCovenantFlow → List Material
  | .paymentGatedTransfer => [.counterparty, .payment]
  | .escrowRelease => [.counterparty, .policyCommitment]
  | .vaultTimelockRelease => [.unlock, .policyCommitment]
  | .atomicSwap => [.counterparty, .payment, .unlock]
  | .covenantOwnedAsset => [.counterparty, .policyCommitment]
  | .policyUpgrade => [.policyCommitment]
  | .controlledTermination => [.policyCommitment]

lemma requireFlowFields_eq_ok {shape : AdvancedCovenantPolicyShape} :
    shape.requireFlowFields = .ok () ↔ ∀ m ∈ required shape.flow, Has shape m := by
  unfold AdvancedCovenantPolicyShape.requireFlowFields
  cases shape.flow <;>
    simp [required, Has, AdvancedCovenantPolicyShape.requireCounterparty,
      AdvancedCovenantPolicyShape.requirePayment, AdvancedCovenantPolicyShape.requireUnlock,
      AdvancedCovenantPolicyShape.requirePolicyCommitment,
      AdvancedCovenantPolicyShape.requireNonzero, unit_bind_eq_ok, failIf_eq_ok, and_assoc]

/-- A shape of a flow with nothing in it but what the table asks for. -/
def bareShape (flow : AdvancedCovenantFlow) : AdvancedCovenantPolicyShape where
  chainId := .kaspaTestnet
  assetId := Bytes.fill 32 1
  lineageId := Bytes.fill 32 1
  flow := flow
  covenantId := Bytes.fill 32 1
  counterpartyCovenantId := if .counterparty ∈ required flow then Bytes.fill 32 1 else Bytes.zero
  paymentAssetId := if .payment ∈ required flow then Bytes.fill 32 1 else Bytes.zero
  paymentAmount := if .payment ∈ required flow then 1 else 0
  unlockDaaScore := if .unlock ∈ required flow then 1 else 0
  policyCommitment := if .policyCommitment ∈ required flow then Bytes.fill 32 1 else Bytes.zero
  authorizationCommitment := Bytes.fill 32 1

lemma validate_bareShape (flow : AdvancedCovenantFlow) : (bareShape flow).validate = .ok () := by
  cases flow <;> decide

lemma has_bareShape {flow : AdvancedCovenantFlow} {m : Material} (h : Has (bareShape flow) m) :
    m ∈ required flow := by
  by_contra hm
  cases m <;> simp [Has, bareShape, hm] at h

/-- The table lists exactly what no valid shape is without. -/
lemma mandatory_iff {flow : AdvancedCovenantFlow} {m : Material} :
    Mandatory flow m ↔ m ∈ required flow := by
  constructor
  · intro h
    exact has_bareShape (h (bareShape flow) rfl (validate_bareShape flow))
  · intro hm shape hflow hvalid
    simp only [AdvancedCovenantPolicyShape.validate, unit_bind_eq_ok] at hvalid
    obtain ⟨-, -, -, -, hfields⟩ := hvalid
    exact requireFlowFields_eq_ok.mp hfields m (hflow ▸ hm)

end Materials

section Evidence
variable {evidence : AdvancedCovenantExecutionEvidence} {shape : AdvancedCovenantPolicyShape}

/-- The evidence of a payment names the counterparty that its shape names. -/
def PaysCounterparty (evidence : AdvancedCovenantExecutionEvidence)
    (shape : AdvancedCovenantPolicyShape) : Prop :=
  shape.flow = .paymentGatedTransfer →
    evidence.counterpartyCovenantId = shape.counterpartyCovenantId

/-- The table behind the checks of the evidence. -/
def asked : AdvancedCovenantFlow → List Material
  | .paymentGatedTransfer => [.payment]
  | .escrowRelease => [.counterparty, .policyCommitment]
  | .vaultTimelockRelease => [.unlock, .policyCommitment]
  | .atomicSwap => [.counterparty, .payment, .unlock]
  | .covenantOwnedAsset => [.counterparty, .policyCommitment]
  | .policyUpgrade => [.policyCommitment]
  | .controlledTermination => [.policyCommitment]

lemma mem_required_iff (flow : AdvancedCovenantFlow) (m : Material) :
    m ∈ required flow ↔ m ∈ asked flow ∨ flow = .paymentGatedTransfer ∧ m = .counterparty := by
  cases flow <;> cases m <;> decide

lemma meets_of_requireFlowEvidence (h : evidence.requireFlowEvidence shape = .ok ()) :
    ∀ m ∈ asked shape.flow, Meets evidence shape m := by
  unfold AdvancedCovenantExecutionEvidence.requireFlowEvidence at h
  generalize shape.flow = flow at h
  cases flow <;>
    simp only [unit_bind_eq_ok, failIf_eq_ok,
      AdvancedCovenantExecutionEvidence.requirePaymentAsset,
      AdvancedCovenantExecutionEvidence.requireCounterparty,
      AdvancedCovenantExecutionEvidence.requireExactPayment,
      AdvancedCovenantExecutionEvidence.requireUnlock,
      AdvancedCovenantExecutionEvidence.requirePolicyCommitment,
      AdvancedCovenantExecutionEvidence.requireSame, ne_eq, not_not, UInt64.not_lt] at h
  case atomicSwap =>
    -- the exact amount is asked for; the policy is compared only where the shape has one
    obtain ⟨hcounterparty, hasset, hamount, hunlock, -⟩ := h
    simp [asked, Meets, hcounterparty, hasset, hamount, hunlock]
  all_goals simp [asked, Meets, h]

lemma strict_iff (h : evidence.validateForShape shape = .ok ()) :
    Strict evidence shape ↔ PaysCounterparty evidence shape := by
  simp only [AdvancedCovenantExecutionEvidence.validateForShape, unit_bind_eq_ok,
    AdvancedCovenantExecutionEvidence.requireAuthorization,
    AdvancedCovenantExecutionEvidence.requireSame, failIf_eq_ok, ne_eq, not_not] at h
  obtain ⟨-, hauth, hflow⟩ := h
  constructor
  · rintro ⟨-, hmeets⟩ hpayment
    refine hmeets .counterparty (mandatory_iff.mpr ?_)
    rw [hpayment]
    decide
  · intro hpays
    refine ⟨hauth, fun m hm => ?_⟩
    rcases (mem_required_iff _ _).mp (mandatory_iff.mp hm) with hasked | ⟨hpayment, rfl⟩
    · exact meets_of_requireFlowEvidence hflow m hasked
    · exact hpays hpayment

end Evidence

section Plans
variable {H : List UInt8 → Bytes32}

/-- A plan that the constructor returns for some shape and evidence. -/
def Built (H : List UInt8 → Bytes32) (plan : AdvancedCovenantExecutionPlan) : Prop :=
  ∃ shape evidence, AdvancedCovenantExecutionPlan.new H shape evidence = .ok plan

lemma built_of_decodeCanonical {buf : List UInt8} {r : AdvancedCovenantExecutionRecord}
    (h : AdvancedCovenantExecutionRecord.decodeCanonical H buf = .ok r) : Built H r.plan := by
  obtain ⟨hparts, -⟩ := AdvancedCovenantExecutionRecord.decodeCanonical_eq_ok.mp h
  exact ⟨_, _, AdvancedCovenantExecutionRecord.fromParts_eq_ok.mp hparts⟩

lemma validateForShape_of_built {plan : AdvancedCovenantExecutionPlan} (h : Built H plan) :
    plan.evidence.validateForShape plan.shape = .ok () := by
  obtain ⟨shape, evidence, hnew⟩ := h
  obtain ⟨rfl, rfl⟩ := AdvancedCovenantExecutionPlan.new_parts hnew
  obtain ⟨_, -, hrest⟩ := bind_eq_ok.mp hnew
  exact (unit_bind_eq_ok.mp hrest).1

/-- Accepted evidence, in a plan or in a record, is strict exactly if the evidence of a
payment-gated transfer names the counterparty of its shape. -/
theorem execution_evidence_strict_iff (H : List UInt8 → Bytes32) :
    (∀ (evidence : AdvancedCovenantExecutionEvidence) (shape : AdvancedCovenantPolicyShape),
      evidence.validateForShape shape = .ok () →
        (Strict evidence shape ↔ PaysCounterparty evidence shape)) ∧
    (∀ plan, Built H plan →
      (Strict plan.evidence plan.shape ↔ PaysCounterparty plan.evidence plan.shape)) ∧
    ∀ buf r, AdvancedCovenantExecutionRecord.decodeCanonical H buf = .ok r →
      (Strict r.plan.evidence r.plan.shape ↔ PaysCounterparty r.plan.evidence r.plan.shape) :=
  ⟨fun _ _ h => strict_iff h, fun _ h => strict_iff (validateForShape_of_built h),
    fun _ _ h => strict_iff (validateForShape_of_built (built_of_decodeCanonical h))⟩

/-- A transfer of an asset against a payment of 100. -/
def samplePayment : AdvancedCovenantPolicyShape :=
  ⟨.kaspaTestnet, Bytes.fill 32 1, Bytes.fill 32 2, .paymentGatedTransfer, Bytes.fill 32 3,
    Bytes.fill 32 4, Bytes.fill 32 5, 100, 0, Bytes.zero, Bytes.fill 32 6⟩

def samplePaid (counterparty : UInt8) : AdvancedCovenantExecutionEvidence :=
  ⟨Bytes.fill 32 counterparty, Bytes.fill 32 5, 100, 0, Bytes.zero, Bytes.fill 32 6⟩

theorem execution_evidence_strict_sample : Strict (samplePaid 4) samplePayment :=
  ((execution_evidence_strict_iff Sha256.digest).1 (samplePaid 4) samplePayment (by decide)).mpr
    (fun _ => rfl)

/-- The evidence names a counterparty that the shape does not, and the plan is built. -/
theorem wrong_counterparty_accepted :
    (samplePaid 9).validateForShape samplePayment = .ok () ∧
      (∃ plan, AdvancedCovenantExecutionPlan.new Sha256.digest samplePayment (samplePaid 9) =
        .ok plan) ∧
      ¬ Strict (samplePaid 9) samplePayment := by
  have hok : (samplePaid 9).validateForShape samplePayment = .ok () := by decide
  refine ⟨hok, ⟨_, rfl⟩, fun h => ?_⟩
  exact absurd ((strict_iff hok).mp h rfl) (by decide)

end Plans
end RgkProtocol.ExecutionEvidence
