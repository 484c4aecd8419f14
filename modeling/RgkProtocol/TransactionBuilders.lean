import RgkProtocol.TransactionIdentity
import RgkProtocol.CovenantSpend

/-!
# Building version 1 transactions

The builders put together inputs, outputs and a payload; the conversion to a version 1 transaction
splits each script from its version, and checks the subnetwork and the gas.
-/
namespace RgkProtocol.TransactionBuilders
open ByteStrings SelfDelimiting Hashing CoreTypes Checked CanonicalEncoding CovenantScript
open TransitionOutputs ToccataTx

section Conversion

/-- The errors of `TxBuildError` that the conversion returns. -/
inductive ConversionError where
  | malformedScriptPublicKey
  | scriptPublicKeyTooLong (len max : ℕ)
  | invalidToccataSubnetwork
  | invalidToccataGas
  deriving DecidableEq

def toccataScriptPublicKeyMaxScriptLen : ℕ := 65535

def fromVersionedBytes (bytes : List UInt8) : Except ConversionError ToccataScriptPublicKey := do
  failIf (bytes.length < 2) .malformedScriptPublicKey
  if h : bytes.length-2 ≤ toccataScriptPublicKeyMaxScriptLen then
    .ok ⟨u16OfLe (bytes.take 2), ⟨bytes.drop 2, by
      simp only [toccataScriptPublicKeyMaxScriptLen] at h
      rw [List.length_drop]
      omega⟩⟩
  else .error (.scriptPublicKeyTooLong (bytes.length-2) toccataScriptPublicKeyMaxScriptLen)

def toVersionedBytes (spk : ToccataScriptPublicKey) : List UInt8 :=
  le16 spk.version ++ spk.script.toList

def tryFromOutput (output : TxOutput) : Except ConversionError ToccataTxOutput := do
  let scriptPublicKey ← fromVersionedBytes output.scriptPublicKey
  .ok ⟨output.value, scriptPublicKey, output.covenantBinding⟩

structure TxInput where
  previousOutpoint : KaspaOutpoint
  signatureScript : ByteVec
  sequence : UInt64
  deriving DecidableEq

def TxInput.new (previousOutpoint : KaspaOutpoint) : TxInput := ⟨previousOutpoint, ByteVec.empty, 0⟩

def fromUnsigned (computeBudget : UInt16) (input : TxInput) : ToccataTxInput :=
  ⟨input.previousOutpoint, input.signatureScript, input.sequence, computeBudget⟩

def subnetworkIdCoinbase : ToccataSubnetworkId := ⟨1 :: List.replicate 19 0, rfl⟩

/-- A user lane has a namespace of four bytes, not all zero behind the first, and a zero tail. -/
def isToccataUserLane (id : ToccataSubnetworkId) : Bool :=
  (id.toList.drop 4).all (· == 0) && (slice id.toList 1 4).any (· != 0)

def validateToccataSubnetwork (id : ToccataSubnetworkId) : Except ConversionError Unit :=
  failIf (¬ (id = subnetworkIdNative ∨ id = subnetworkIdCoinbase ∨ isToccataUserLane id))
    .invalidToccataSubnetwork

def validateToccataGas (id : ToccataSubnetworkId) (gas : UInt64) : Except ConversionError Unit :=
  failIf (¬ (gas = 0 ∨ isToccataUserLane id)) .invalidToccataGas

def newToccataV1Tx (inputs : List ToccataTxInput) (outputs : List ToccataTxOutput)
    (lockTime : UInt64) (subnetworkId : ToccataSubnetworkId) (gas : UInt64) (payload : ByteVec) :
    Except ConversionError ToccataV1Tx := do
  validateToccataSubnetwork subnetworkId
  validateToccataGas subnetworkId gas
  .ok ⟨inputs, outputs, lockTime, subnetworkId, gas, payload, 0⟩

structure UnsignedTx where
  inputs : List TxInput
  outputs : List TxOutput
  payload : ByteVec
  lockTime : UInt64
  deriving DecidableEq

def UnsignedTx.intoToccataV1 (tx : UnsignedTx) (computeBudget : UInt16)
    (subnetworkId : ToccataSubnetworkId) (gas mass : UInt64) :
    Except ConversionError ToccataV1Tx := do
  let inputs := tx.inputs.map (fromUnsigned computeBudget)
  let outputs ← mapEach tryFromOutput tx.outputs
  let converted ← newToccataV1Tx inputs outputs tx.lockTime subnetworkId gas tx.payload
  .ok { converted with mass := mass }

end Conversion

section Scripts

lemma length_toVersionedBytes (spk : ToccataScriptPublicKey) :
    (toVersionedBytes spk).length = 2 + spk.script.toList.length := by
  simp [toVersionedBytes]

/-- Versioned bytes are read back whole: the accepted strings are those of the scripts that fit. -/
lemma fromVersionedBytes_eq_ok {bytes : List UInt8} {spk : ToccataScriptPublicKey} :
    fromVersionedBytes bytes = .ok spk ↔ bytes = toVersionedBytes spk ∧
      spk.script.toList.length ≤ toccataScriptPublicKeyMaxScriptLen := by
  simp only [fromVersionedBytes, unit_bind_eq_ok, failIf_eq_ok, not_lt]
  constructor
  · rintro ⟨hlen, h⟩
    split_ifs at h with hmax
    obtain rfl := Except.ok.inj h
    refine ⟨?_, by simpa using hmax⟩
    rw [toVersionedBytes, le16_u16OfLe (by simpa using hlen), List.take_append_drop]
  · rintro ⟨rfl, hmax⟩
    have hlen := length_toVersionedBytes spk
    refine ⟨by omega, ?_⟩
    rw [dif_pos (by omega)]
    simp [toVersionedBytes]

end Scripts

section Builders

def buildTransitionSpend (openCovenant : KaspaOutpoint) : TxInput := TxInput.new openCovenant

/-- Version zero and the hash of the redeem script; `sha` is SHA-256. -/
def spkFromRedeemScript (sha : List UInt8 → Bytes32) (redeemScript : List UInt8) : List UInt8 :=
  le16 0 ++ (sha redeemScript).toList

def advance (state : CovenantState) (newDigest newReplayMarker : Bytes32) :
    Except CovenantError CovenantState := do
  failIf (newDigest = state.currentStateDigest) (.invariant "new state digest equals current")
  .ok { state with currentStateDigest := newDigest, replayMarker := newReplayMarker }

end Builders
end RgkProtocol.TransactionBuilders
