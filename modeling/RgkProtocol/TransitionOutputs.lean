import RgkProtocol.CovenantScript

/-!
# The outputs of a transition transaction

The builder of a transition checks what the inputs bring against the fee and the value of the new
covenant output, then adds the change that the caller asks for. The check adds with wrapping
arithmetic and leaves the change out, so it bounds the outputs only where the sum does not wrap
and the change fits in the rest.
-/
namespace RgkProtocol.TransitionOutputs
open ByteStrings Hashing CoreTypes Checked CovenantScript

section Builders

inductive TxBuildError where
  | badFee (fee inTotal : UInt64)
  | changeOverflow (inTotal fee covenant : UInt64)
  | emptyScriptPublicKey
  | covenantMismatch (tx state : Bytes32)
  | invalidToccataSigHashType (value : UInt8)
  | toccataSigHashInputOutOfBounds (inputIndex inputCount : ℕ)
  | missingToccataSigHashUtxo (inputIndex : ℕ)
  | invalidToccataCovenantGroup (reason : String)
  deriving DecidableEq

structure CovenantBinding where
  authorizingInput : UInt16
  covenantId : Bytes32
  deriving DecidableEq

structure TxOutput where
  value : UInt64
  scriptPublicKey : List UInt8
  covenantBinding : Option CovenantBinding
  deriving DecidableEq

def TxOutput.new (value : UInt64) (scriptPublicKey : List UInt8) :
    Except TxBuildError TxOutput := do
  failIf (scriptPublicKey = []) .emptyScriptPublicKey
  .ok ⟨value, scriptPublicKey, none⟩

def TxOutput.covenant (value : UInt64) (scriptPublicKey : List UInt8) (binding : CovenantBinding) :
    Except TxBuildError TxOutput := do
  failIf (scriptPublicKey = []) .emptyScriptPublicKey
  .ok ⟨value, scriptPublicKey, some binding⟩

/-- Addition of 64-bit words wraps, as it does in a release build. -/
def buildTransitionOutputs (newState : CovenantState) (newSpk : List UInt8) (newValue : UInt64)
    (newCovenantId : Bytes32) (fee changeValue : UInt64) (changeSpk : Option (List UInt8))
    (inTotal : UInt64) : Except TxBuildError (List TxOutput) := do
  failIf (newSpk = []) .emptyScriptPublicKey
  failIf (newCovenantId = Bytes.zero) (.covenantMismatch newCovenantId newState.lineageId)
  failIf (inTotal < fee+newValue) (.changeOverflow inTotal fee newValue)
  let covenantOut ← TxOutput.covenant newValue newSpk ⟨0, newCovenantId⟩
  match changeSpk with
  | none => .ok [covenantOut]
  | some spk =>
    if 0 < changeValue then do
      let change ← TxOutput.new changeValue spk
      .ok [covenantOut, change]
    else .ok [covenantOut]

def validateBalanced (inputs outputs fee : UInt64) : Except TxBuildError Unit :=
  failIf (inputs < outputs+fee) (.badFee fee inputs)

end Builders

section Values

/-- The value of a list of outputs. -/
def outputTotal (outputs : List TxOutput) : ℕ := natSum TxOutput.value outputs

/-- The change that is paid out: none without a script. -/
def paidChange (changeValue : UInt64) (changeSpk : Option (List UInt8)) : ℕ :=
  if changeSpk.isSome then changeValue.toNat else 0

/-- The arguments pass the checks of the builder. -/
structure Buildable (newSpk : List UInt8) (newValue : UInt64) (newCovenantId : Bytes32)
    (fee changeValue : UInt64) (changeSpk : Option (List UInt8)) (inTotal : UInt64) : Prop where
  spk : newSpk ≠ []
  covenantId : newCovenantId ≠ Bytes.zero
  guard : fee+newValue ≤ inTotal
  changeSpk : changeSpk = some [] → changeValue = 0

/-- The sum of fee and covenant value does not wrap, and the change fits in what they leave. -/
structure Covered (newValue fee changeValue : UInt64) (changeSpk : Option (List UInt8))
    (inTotal : UInt64) : Prop where
  sum : fee.toNat + newValue.toNat < 2^64
  change : paidChange changeValue changeSpk ≤ inTotal.toNat - (fee.toNat + newValue.toNat)

variable {newState : CovenantState} {newSpk : List UInt8} {newValue : UInt64}
  {newCovenantId : Bytes32} {fee changeValue inTotal : UInt64} {changeSpk : Option (List UInt8)}
  {outputs : List TxOutput}

/-- The outputs that are built from arguments that pass. -/
def builtOutputs (newSpk : List UInt8) (newValue : UInt64) (newCovenantId : Bytes32)
    (changeValue : UInt64) (changeSpk : Option (List UInt8)) : List TxOutput :=
  ⟨newValue, newSpk, some ⟨0, newCovenantId⟩⟩ ::
    (if changeValue = 0 then [] else (changeSpk.map (⟨changeValue, ·, none⟩)).toList)

lemma TxOutput.new_eq_ok {value : UInt64} {spk : List UInt8} {output : TxOutput} :
    TxOutput.new value spk = .ok output ↔ spk ≠ [] ∧ ⟨value, spk, none⟩ = output := by
  simp only [TxOutput.new, unit_bind_eq_ok, failIf_eq_ok, Except.ok.injEq, ne_eq]

lemma TxOutput.covenant_eq_ok {value : UInt64} {spk : List UInt8} {binding : CovenantBinding}
    {output : TxOutput} :
    TxOutput.covenant value spk binding = .ok output ↔
      spk ≠ [] ∧ ⟨value, spk, some binding⟩ = output := by
  simp only [TxOutput.covenant, unit_bind_eq_ok, failIf_eq_ok, Except.ok.injEq, ne_eq]

lemma buildTransitionOutputs_eq_ok :
    buildTransitionOutputs newState newSpk newValue newCovenantId fee changeValue changeSpk
        inTotal = .ok outputs ↔
      Buildable newSpk newValue newCovenantId fee changeValue changeSpk inTotal ∧
        builtOutputs newSpk newValue newCovenantId changeValue changeSpk = outputs := by
  rw [buildTransitionOutputs, unit_bind_eq_ok, unit_bind_eq_ok, unit_bind_eq_ok, bind_eq_ok,
    failIf_eq_ok, failIf_eq_ok, failIf_eq_ok, UInt64.not_lt]
  have hpos : 0 < changeValue ↔ changeValue ≠ 0 := UInt64.pos_iff_ne_zero
  constructor
  · rintro ⟨hspk, hid, hguard, covenantOut, hcovenant, h⟩
    obtain ⟨-, rfl⟩ := TxOutput.covenant_eq_ok.mp hcovenant
    cases changeSpk with
    | none => exact ⟨⟨hspk, hid, hguard, nofun⟩, by simpa [builtOutputs] using h⟩
    | some spk =>
      by_cases hzero : changeValue = 0
      · exact ⟨⟨hspk, hid, hguard, fun _ => hzero⟩, by simpa [builtOutputs, hzero] using h⟩
      · simp only [if_pos (hpos.mpr hzero), bind_eq_ok, Except.ok.injEq] at h
        obtain ⟨change, hchange, rfl⟩ := h
        obtain ⟨hne, rfl⟩ := TxOutput.new_eq_ok.mp hchange
        refine ⟨⟨hspk, hid, hguard, fun hempty => absurd (Option.some.inj hempty) hne⟩, ?_⟩
        simp [builtOutputs, hzero]
  · rintro ⟨⟨hspk, hid, hguard, hchange⟩, rfl⟩
    refine ⟨hspk, hid, hguard, _, TxOutput.covenant_eq_ok.mpr ⟨hspk, rfl⟩, ?_⟩
    cases changeSpk with
    | none => simp [builtOutputs]
    | some spk =>
      by_cases hzero : changeValue = 0
      · simp [builtOutputs, hzero]
      · have hne : spk ≠ [] := fun hempty => hzero (hchange (congrArg some hempty))
        simp only [if_pos (hpos.mpr hzero), bind_eq_ok]
        exact ⟨_, TxOutput.new_eq_ok.mpr ⟨hne, rfl⟩, by simp [builtOutputs, hzero]⟩

lemma outputTotal_built :
    outputTotal (builtOutputs newSpk newValue newCovenantId changeValue changeSpk) =
      newValue.toNat + paidChange changeValue changeSpk := by
  cases changeSpk with
  | none => simp [builtOutputs, outputTotal, paidChange]
  | some spk =>
    by_cases hzero : changeValue = 0
    · simp [builtOutputs, outputTotal, paidChange, hzero]
    · simp [builtOutputs, outputTotal, paidChange, hzero]

/-- With a sum that does not wrap, the check of the builder is the one on numbers. -/
lemma toNat_add_le_iff {a b c : UInt64} (h : a.toNat + b.toNat < 2^64) :
    a+b ≤ c ↔ a.toNat + b.toNat ≤ c.toNat := by
  rw [UInt64.le_iff_toNat_le, UInt64.toNat_add, Nat.mod_eq_of_lt h]

/-- Outputs and fee stay within the inputs exactly when the arguments cover them. -/
lemma within_iff_covered (hguard : fee+newValue ≤ inTotal) :
    newValue.toNat + paidChange changeValue changeSpk + fee.toNat ≤ inTotal.toNat ↔
      Covered newValue fee changeValue changeSpk inTotal := by
  have hlt := inTotal.toNat_lt
  constructor
  · intro h
    exact ⟨by omega, by omega⟩
  · rintro ⟨hsum, hchange⟩
    have hle := (toNat_add_le_iff hsum).mp hguard
    omega

lemma validateBalanced_exact_iff {inputs outputs fee : UInt64} :
    (validateBalanced inputs outputs fee = .ok () ↔
        outputs.toNat + fee.toNat ≤ inputs.toNat) ↔
      (outputs.toNat + fee.toNat < 2^64 ∨ inputs.toNat + 2^64 < outputs.toNat + fee.toNat) := by
  have hi := inputs.toNat_lt
  have ho := outputs.toNat_lt
  have hf := fee.toNat_lt
  rw [validateBalanced, failIf_eq_ok, UInt64.not_lt]
  by_cases hsum : outputs.toNat + fee.toNat < 2^64
  · exact iff_of_true (toNat_add_le_iff hsum) (Or.inl hsum)
  · have hwrapped : (outputs+fee).toNat = outputs.toNat + fee.toNat - 2^64 := by
      rw [UInt64.toNat_add, Nat.mod_eq_sub_mod (by omega), Nat.mod_eq_of_lt (by omega)]
    rw [UInt64.le_iff_toNat_le, hwrapped]
    omega

/-- For all arguments: what the builder accepts pays out no more than the inputs bring exactly when
accepted arguments cover fee, covenant value and change; and the balance check is exact unless its
sum wraps to no more than the inputs. -/
theorem outputs_within_inputs_iff (newState : CovenantState) (newSpk : List UInt8)
    (newValue : UInt64) (newCovenantId : Bytes32) (fee changeValue : UInt64)
    (changeSpk : Option (List UInt8)) (inTotal inputs outputs balanceFee : UInt64) :
    ((∀ outs, buildTransitionOutputs newState newSpk newValue newCovenantId fee changeValue
        changeSpk inTotal = .ok outs → outputTotal outs + fee.toNat ≤ inTotal.toNat) ↔
      (Buildable newSpk newValue newCovenantId fee changeValue changeSpk inTotal →
        Covered newValue fee changeValue changeSpk inTotal)) ∧
    ((validateBalanced inputs outputs balanceFee = .ok () ↔
        outputs.toNat + balanceFee.toNat ≤ inputs.toNat) ↔
      (outputs.toNat + balanceFee.toNat < 2^64 ∨
        inputs.toNat + 2^64 < outputs.toNat + balanceFee.toNat)) := by
  refine ⟨⟨?_, ?_⟩, validateBalanced_exact_iff⟩
  · intro h hbuildable
    have hle := h _ (buildTransitionOutputs_eq_ok.mpr ⟨hbuildable, rfl⟩)
    rw [outputTotal_built] at hle
    exact (within_iff_covered hbuildable.guard).mp hle
  · intro h outs hbuilt
    obtain ⟨hbuildable, rfl⟩ := buildTransitionOutputs_eq_ok.mp hbuilt
    rw [outputTotal_built]
    exact (within_iff_covered hbuildable.guard).mpr (h hbuildable)

def sampleState : CovenantState :=
  ⟨1, .kaspaSimnet, Bytes.fill 32 1, Bytes.fill 32 2, Bytes.fill 32 3, .any, .verifierReceipt,
    Bytes.fill 32 4⟩

/-- A change of 5000 from inputs of 1100, a fee that wraps the check of the builder, and one that
wraps the balance check. -/
theorem builders_create_value :
    (∃ outs, buildTransitionOutputs sampleState [0x76] 1000 (Bytes.fill 32 5) 100 5000
        (some [0x76]) 1100 = .ok outs ∧ ¬outputTotal outs + 100 ≤ 1100) ∧
    (∃ outs, buildTransitionOutputs sampleState [0x76] 1000 (Bytes.fill 32 5) (0-1000) 0 none 0 =
        .ok outs ∧ ¬outputTotal outs + (0-1000 : UInt64).toNat ≤ 0) ∧
    validateBalanced 0 1000 (0-1000) = .ok () ∧ ¬1000 + (0-1000 : UInt64).toNat ≤ 0 := by
  refine ⟨⟨_, rfl, by decide⟩, ⟨_, rfl, by decide⟩, by decide, by decide⟩

end Values
end RgkProtocol.TransitionOutputs
