import RgkProtocol.CanonicalEncoding
import RgkProtocol.ScriptMachine

/-!
# Covenant redeem scripts

The payload that a covenant commits to, the continuation policies, and the scripts that are built
for them. A script is emitted as bytes: number pushes of varying width, data pushes, and the
introspection opcodes.
-/
namespace RgkProtocol.CovenantScript
open ByteStrings Hashing CoreTypes Checked CanonicalEncoding ScriptMachine

/-- The kinds of advanced covenant action. -/
inductive AdvancedCovenantFlow where
  | paymentGatedTransfer
  | escrowRelease
  | vaultTimelockRelease
  | atomicSwap
  | covenantOwnedAsset
  | policyUpgrade
  | controlledTermination
  deriving DecidableEq, Repr

inductive CovenantError where
  | decode (message : String)
  | payloadTooLong (got max : ℕ)
  | invariant (message : String)
  | scriptBuild (message : String)
  | zeroAdvancedCovenantField (field : String)
  | missingAdvancedCovenantField (flow : AdvancedCovenantFlow) (field : String)
  | advancedCovenantExecutionMismatch (flow : AdvancedCovenantFlow) (field : String)
  | advancedCovenantPaymentTooSmall (flow : AdvancedCovenantFlow) (required actual : UInt64)
  | advancedCovenantDaaTooEarly (flow : AdvancedCovenantFlow) (required actual : UInt64)
  deriving DecidableEq, Repr

namespace AdvancedCovenantFlow

def tag : AdvancedCovenantFlow → UInt8
  | paymentGatedTransfer => 0
  | escrowRelease => 1
  | vaultTimelockRelease => 2
  | atomicSwap => 3
  | covenantOwnedAsset => 4
  | policyUpgrade => 5
  | controlledTermination => 6

def fromTag (tag : UInt8) : Except CovenantError AdvancedCovenantFlow :=
  if tag = 0 then .ok paymentGatedTransfer
  else if tag = 1 then .ok escrowRelease
  else if tag = 2 then .ok vaultTimelockRelease
  else if tag = 3 then .ok atomicSwap
  else if tag = 4 then .ok covenantOwnedAsset
  else if tag = 5 then .ok policyUpgrade
  else if tag = 6 then .ok controlledTermination
  else .error (.decode s!"unknown advanced covenant flow tag {tag}")

lemma fromTag_eq_ok {t : UInt8} {flow : AdvancedCovenantFlow} :
    fromTag t = .ok flow ↔ t = flow.tag := by
  constructor
  · intro h
    unfold fromTag at h
    split_ifs at h <;> cases h <;> assumption
  · rintro rfl
    cases flow <;> rfl

end AdvancedCovenantFlow

section Payload

structure CovenantState where
  version : UInt16
  chainId : KaspaChainId
  lineageId : Bytes32
  assetId : Bytes32
  currentStateDigest : Bytes32
  receiptPolicy : ReceiptPolicy
  genesisProofMode : ProofMode
  replayMarker : Bytes32
  deriving DecidableEq

/-- The text `rgk:kov:0` and three zero bytes. -/
def covenantStateTag : Bytes 12 :=
  ⟨[0x72, 0x67, 0x6b, 0x3a, 0x6b, 0x6f, 0x76, 0x3a, 0x30, 0, 0, 0], rfl⟩

def CovenantState.encodePayload (s : CovenantState) : List UInt8 :=
  covenantStateTag.toList ++ le16 s.version ++ KaspaChainId.encode s.chainId ++
    s.lineageId.toList ++ s.assetId.toList ++ s.currentStateDigest.toList ++
    s.receiptPolicy.encode ++ ProofMode.encode s.genesisProofMode ++ s.replayMarker.toList

/-- The length of a sample payload. -/
def expectedPayloadLen : ℕ :=
  (CovenantState.mk encodingVersion .kaspaLocalToccata (Bytes.fill 32 1) (Bytes.fill 32 2)
    (Bytes.fill 32 3) .any .verifierReceipt (Bytes.fill 32 4)).encodePayload.length

def payloadStaticPrefixEnd : ℕ := 16
def payloadLineageStart : ℕ := 16
def payloadLineageEnd : ℕ := 48
def payloadContractStart : ℕ := 48
def payloadContractEnd : ℕ := 80
def payloadPolicyModeStart : ℕ := 112
def payloadPolicyModeEnd : ℕ := 116

structure CovenantSpec where
  chainId : KaspaChainId
  lineageId : Bytes32
  assetId : Bytes32
  initialStateDigest : Bytes32
  receiptPolicy : ReceiptPolicy
  genesisProofMode : ProofMode
  deriving DecidableEq

/-- The payload with the two dynamic fields left zero. -/
def CovenantSpec.payloadTemplate (spec : CovenantSpec) : List UInt8 :=
  (CovenantState.mk encodingVersion spec.chainId spec.lineageId spec.assetId Bytes.zero
    spec.receiptPolicy spec.genesisProofMode Bytes.zero).encodePayload

end Payload

section Policies

structure CovenantContinuationPolicy where
  authorizingInput : UInt16
  exactOutputCount : UInt32
  covenantOutputIndices : List UInt32
  deriving DecidableEq

def CovenantContinuationPolicy.singleton : CovenantContinuationPolicy := ⟨0, 1, [0]⟩

/-- The loop over the listed outputs, with the index before the current one. -/
def checkOutputIndices (count : UInt32) : Option UInt32 → List UInt32 → Except CovenantError Unit
  | _, [] => .ok ()
  | previous, idx :: rest => do
      failIf (count ≤ idx) (.scriptBuild
        s!"continuation covenant output index {idx} is outside exact output count {count}")
      whenSome previous (fun prev => failIf (idx ≤ prev)
        (.scriptBuild "continuation covenant output indices must be strictly increasing"))
      checkOutputIndices count (some idx) rest

def CovenantContinuationPolicy.validate (p : CovenantContinuationPolicy) :
    Except CovenantError Unit := do
  failIf (p.exactOutputCount = 0)
    (.scriptBuild "continuation policy output count must be non-zero")
  failIf (p.covenantOutputIndices = [])
    (.scriptBuild "continuation policy requires at least one covenant output")
  checkOutputIndices p.exactOutputCount none p.covenantOutputIndices

lemma checkOutputIndices_eq_ok {count : UInt32} (previous : Option UInt32) (l : List UInt32) :
    checkOutputIndices count previous l = .ok () ↔
      (∀ k ∈ l, k < count) ∧ (previous.toList ++ l).IsChain (· < ·) := by
  induction l generalizing previous with
  | nil => cases previous <;> simp [checkOutputIndices]
  | cons idx rest ih =>
    simp only [checkOutputIndices, unit_bind_eq_ok, failIf_eq_ok, whenSome_eq_ok, ih,
      List.forall_mem_cons, UInt32.not_le]
    cases previous with
    | none => simp [and_assoc]
    | some prev =>
      simp only [Option.some.injEq, forall_eq', Option.toList_some, List.singleton_append,
        List.isChain_cons_cons]
      tauto

lemma CovenantContinuationPolicy.validate_eq_ok {p : CovenantContinuationPolicy} :
    p.validate = .ok () ↔ p.exactOutputCount ≠ 0 ∧ p.covenantOutputIndices ≠ [] ∧
      (∀ k ∈ p.covenantOutputIndices, k < p.exactOutputCount) ∧
      p.covenantOutputIndices.IsChain (· < ·) := by
  simp only [CovenantContinuationPolicy.validate, unit_bind_eq_ok, failIf_eq_ok,
    checkOutputIndices_eq_ok, Option.toList_none, List.nil_append, ne_eq]

structure CovenantSharedContinuationPolicy where
  covenantInputCount : UInt32
  covenantOutputCount : UInt32
  exactOutputCount : UInt32
  deriving DecidableEq

def CovenantSharedContinuationPolicy.validate (p : CovenantSharedContinuationPolicy) :
    Except CovenantError Unit := do
  failIf (p.covenantInputCount = 0)
    (.scriptBuild "shared continuation policy requires at least one covenant input")
  failIf (p.covenantOutputCount = 0)
    (.scriptBuild "shared continuation policy requires at least one covenant output")
  failIf (p.exactOutputCount = 0)
    (.scriptBuild "shared continuation policy output count must be non-zero")
  let outputs := p.covenantOutputCount
  let exact := p.exactOutputCount
  failIf (exact < outputs) (.scriptBuild
    s!"shared continuation covenant output count {outputs} exceeds exact output count {exact}")

end Policies

section Opcodes

def opTxOutputCount : UInt8 := 0xb4
def opTxPayloadSubstr : UInt8 := 0xb8
def opTxInputIndex : UInt8 := 0xb9
def opTxInputSpk : UInt8 := 0xbf
def opTxOutputSpk : UInt8 := 0xc3
def opTxPayloadLen : UInt8 := 0xc4
def opInputCovenantId : UInt8 := 0xcf
def opCovInputCount : UInt8 := 0xd0
def opCovOutputCount : UInt8 := 0xd2
def opCovOutputIdx : UInt8 := 0xd3
def opOutputCovenantId : UInt8 := 0xd5
def opOutputAuthorizingInput : UInt8 := 0xd6
def opEqualVerify : UInt8 := 0x88
def opTrue : UInt8 := 0x51

end Opcodes

section Emitters

def pushData (data : List UInt8) : List UInt8 :=
  let n := data.length
  if n < 0x4c then UInt8.ofNat n :: data
  else if n ≤ 0xff then 0x4c :: (leBytes 1 n ++ data)
  else if n ≤ 0xffff then 0x4d :: (leBytes 2 n ++ data)
  else 0x4e :: (leBytes 4 n ++ data)

/-- The loop that takes a value apart byte by byte until nothing of it is left. A 64-bit value
lasts for eight rounds. -/
def lowBytes : ℕ → ℕ → List UInt8
  | 0, _ => []
  | rounds+1, value =>
      if value = 0 then [] else UInt8.ofNat (value % 256) :: lowBytes rounds (value/256)

def signBytes (negative : Bool) (bytes : List UInt8) : List UInt8 :=
  if bytes.getLast?.any (fun b => b &&& 0x80 != 0) then
    bytes ++ [if negative then 0x80 else 0x00]
  else if negative then
    match bytes.getLast? with
    | some last => bytes.dropLast ++ [last ||| 0x80]
    | none => bytes
  else bytes

def pushScriptI64 (n : ℤ) : List UInt8 :=
  if n = 0 then [0x00]
  else if n = -1 then [0x4f]
  else if 1 ≤ n ∧ n ≤ 16 then [UInt8.ofNat (0x50 + n.toNat)]
  else pushData (signBytes (decide (n < 0)) (lowBytes 8 n.natAbs))

def pushPayloadSliceEquals (start stop : ℕ) (expected : List UInt8) : List UInt8 :=
  (pushScriptI64 start ++ pushScriptI64 stop ++ [opTxPayloadSubstr]) ++ pushData expected ++
    [opEqualVerify]

def pushCurrentInputCovenantId : List UInt8 := [opTxInputIndex] ++ [opInputCovenantId]

def pushCurrentInputSpk : List UInt8 := [opTxInputIndex] ++ [opTxInputSpk]

def pushSharedCovenantOutputIndex (ordinal : ℕ) : List UInt8 :=
  pushCurrentInputCovenantId ++ pushScriptI64 ordinal ++ [opCovOutputIdx]

/-- The payload has the length of a covenant state, and its static fields are the template's. -/
def payloadChecks (template : List UInt8) : List UInt8 :=
  ([opTxPayloadLen] ++ pushScriptI64 expectedPayloadLen ++ [opEqualVerify]) ++
  pushPayloadSliceEquals 0 payloadStaticPrefixEnd (slice template 0 payloadStaticPrefixEnd) ++
  pushPayloadSliceEquals payloadLineageStart payloadLineageEnd
    (slice template payloadLineageStart payloadLineageEnd) ++
  pushPayloadSliceEquals payloadContractStart payloadContractEnd
    (slice template payloadContractStart payloadContractEnd) ++
  pushPayloadSliceEquals payloadPolicyModeStart payloadPolicyModeEnd
    (slice template payloadPolicyModeStart payloadPolicyModeEnd)

/-- What is emitted for one listed output: the same script, the same covenant, and the
authorizing input on record. -/
def continuationOutput (authorizingInput : UInt16) (outputIndex : UInt32) : List UInt8 :=
  ((pushScriptI64 authorizingInput.toNat ++ [opTxInputSpk]) ++
    (pushScriptI64 outputIndex.toNat ++ [opTxOutputSpk]) ++ [opEqualVerify]) ++
  ((pushScriptI64 authorizingInput.toNat ++ [opInputCovenantId]) ++
    (pushScriptI64 outputIndex.toNat ++ [opOutputCovenantId]) ++ [opEqualVerify]) ++
  ((pushScriptI64 outputIndex.toNat ++ [opOutputAuthorizingInput]) ++
    pushScriptI64 authorizingInput.toNat ++ [opEqualVerify])

def CovenantSpec.buildScriptForPolicy (spec : CovenantSpec) (policy : CovenantContinuationPolicy) :
    Except CovenantError (List UInt8) := do
  policy.validate
  failIf (spec.payloadTemplate.length ≠ expectedPayloadLen)
    (.scriptBuild "payload length template mismatch")
  .ok (([opTxInputIndex] ++ pushScriptI64 policy.authorizingInput.toNat ++ [opEqualVerify]) ++
    ([opTxOutputCount] ++ pushScriptI64 policy.exactOutputCount.toNat ++ [opEqualVerify]) ++
    policy.covenantOutputIndices.flatMap (continuationOutput policy.authorizingInput) ++
    payloadChecks spec.payloadTemplate ++ [opTrue])

def CovenantSpec.buildScript (spec : CovenantSpec) : Except CovenantError (List UInt8) :=
  spec.buildScriptForPolicy .singleton

/-- What is emitted for one output that carries the executing input's covenant. -/
def sharedOutput (ordinal : ℕ) : List UInt8 :=
  (pushCurrentInputSpk ++ (pushSharedCovenantOutputIndex ordinal ++ [opTxOutputSpk]) ++
    [opEqualVerify]) ++
  (pushCurrentInputCovenantId ++ (pushSharedCovenantOutputIndex ordinal ++ [opOutputCovenantId]) ++
    [opEqualVerify])

def CovenantSpec.buildScriptForSharedPolicy (spec : CovenantSpec)
    (policy : CovenantSharedContinuationPolicy) : Except CovenantError (List UInt8) := do
  policy.validate
  failIf (spec.payloadTemplate.length ≠ expectedPayloadLen)
    (.scriptBuild "payload length template mismatch")
  .ok (([opTxOutputCount] ++ pushScriptI64 policy.exactOutputCount.toNat ++ [opEqualVerify]) ++
    ((pushCurrentInputCovenantId ++ [opCovInputCount]) ++
      pushScriptI64 policy.covenantInputCount.toNat ++ [opEqualVerify]) ++
    ((pushCurrentInputCovenantId ++ [opCovOutputCount]) ++
      pushScriptI64 policy.covenantOutputCount.toNat ++ [opEqualVerify]) ++
    (List.range policy.covenantOutputCount.toNat).flatMap sharedOutput ++
    payloadChecks spec.payloadTemplate ++ [opTrue])

end Emitters

section Pushes

lemma lowBytes_eq_magnitude {rounds value : ℕ} (h : value < 256^rounds) :
    lowBytes rounds value = magnitude value := by
  induction rounds generalizing value with
  | zero =>
    obtain rfl : value = 0 := by omega
    exact magnitude_zero.symm
  | succ rounds ih =>
    rcases Nat.eq_zero_or_pos value with rfl | hpos
    · exact magnitude_zero.symm
    · rw [lowBytes, if_neg hpos.ne', magnitude_of_pos hpos, ih]
      rw [pow_succ] at h
      omega

lemma length_lowBytes (rounds value : ℕ) : (lowBytes rounds value).length ≤ rounds := by
  induction rounds generalizing value with
  | zero => exact le_rfl
  | succ rounds ih =>
    rw [lowBytes]
    split_ifs
    · exact Nat.zero_le _
    · exact Nat.succ_le_succ (ih _)

lemma signBytes_eq_withSign (negative : Bool) (bytes : List UInt8) :
    signBytes negative bytes = withSign negative bytes := by
  induction bytes using withSign.induct with
  | case1 => cases negative <;> rfl
  | case2 b h => simp [signBytes, withSign, h]
  | case3 b h =>
    have hb : b &&& 0x80 = 0 := not_not.mp h
    cases negative <;> simp [signBytes, withSign, hb]
  | case4 b c bytes ih =>
    rw [withSign, ← ih]
    simp only [signBytes, List.getLast?_cons_cons, List.dropLast_cons_cons]
    cases hl : (c :: bytes).getLast? with
    | none => simp at hl
    | some last => split_ifs <;> rfl

lemma length_signBytes (negative : Bool) (bytes : List UInt8) :
    (signBytes negative bytes).length ≤ bytes.length+1 := by
  unfold signBytes
  by_cases hbit : bytes.getLast?.any (fun b => b &&& 0x80 != 0) = true
  · rw [if_pos hbit, List.length_append, List.length_singleton]
  · rw [if_neg hbit]
    split_ifs
    · cases hl : bytes.getLast? with
      | none => exact Nat.le_succ _
      | some last =>
        rw [List.length_append, List.length_dropLast, List.length_singleton]
        omega
    · exact Nat.le_succ _

lemma signBytes_lowBytes {n : ℤ} (h : n.natAbs < 2^64) :
    signBytes (decide (n < 0)) (lowBytes 8 n.natAbs) = numberBytes n := by
  rw [signBytes_eq_withSign, lowBytes_eq_magnitude (by omega), numberBytes]

end Pushes

end RgkProtocol.CovenantScript
