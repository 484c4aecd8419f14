import RgkProtocol.SelfDelimiting
import RgkProtocol.TransitionOutputs

/-!
# Toccata transactions and what their encodings determine

The fields of a version 1 transaction and the byte strings that are hashed of them. One writer
serves the transaction hash and the rest digest: its flags blank the payload, the signature scripts
and the mass fields. The bytes it writes determine the transaction with those fields erased.
-/
namespace RgkProtocol.ToccataTx
open ByteStrings SelfDelimiting Hashing CoreTypes TransitionOutputs

section Data

/-- The domains of the chain's hash function. -/
inductive KaspaHasher where
  | transactionSigningHash
  | payloadDigest
  | transactionRest
  | transactionV1Id
  | transactionHash
  | covenantID
  deriving DecidableEq

/-- One instance of the hashers: SHA-256 behind a byte for the domain. -/
def sampleHasher (hasher : KaspaHasher) (bytes : List UInt8) : Bytes32 :=
  Sha256.digest (UInt8.ofNat hasher.ctorIdx :: bytes)

def txVersionToccata : UInt16 := 1

abbrev ToccataSubnetworkId := Bytes 20

def subnetworkIdNative : ToccataSubnetworkId := Bytes.zero

@[ext] structure ToccataScriptPublicKey where
  version : UInt16
  script : ByteVec
  deriving DecidableEq

@[ext] structure ToccataTxInput where
  previousOutpoint : KaspaOutpoint
  signatureScript : ByteVec
  sequence : UInt64
  computeBudget : UInt16
  deriving DecidableEq

@[ext] structure ToccataTxOutput where
  value : UInt64
  scriptPublicKey : ToccataScriptPublicKey
  covenantBinding : Option CovenantBinding
  deriving DecidableEq

@[ext] structure ToccataUtxoEntry where
  amount : UInt64
  scriptPublicKey : ToccataScriptPublicKey
  deriving DecidableEq

@[ext] structure ToccataV1Tx where
  inputs : List ToccataTxInput
  outputs : List ToccataTxOutput
  lockTime : UInt64
  subnetworkId : ToccataSubnetworkId
  gas : UInt64
  payload : ByteVec
  mass : UInt64
  deriving DecidableEq

end Data

section Writers

def writeLen (len : ℕ) : List UInt8 := leBytes 8 len

def writeBool (value : Bool) : List UInt8 := [value.toUInt8]

def writeVarBytes (bytes : ByteVec) : List UInt8 := writeLen bytes.toList.length ++ bytes.toList

def hashToccataOutpoint (outpoint : KaspaOutpoint) : List UInt8 :=
  outpoint.transactionId.toList ++ le32 outpoint.index

def hashToccataScriptPublicKey (scriptPublicKey : ToccataScriptPublicKey) : List UInt8 :=
  le16 scriptPublicKey.version ++ writeVarBytes scriptPublicKey.script

def writeCovenantBinding (binding : CovenantBinding) : List UInt8 :=
  le16 binding.authorizingInput ++ binding.covenantId.toList

def hashToccataOutputForSighash (output : ToccataTxOutput) : List UInt8 :=
  le64 output.value ++ hashToccataScriptPublicKey output.scriptPublicKey ++
    (writeBool output.covenantBinding.isSome ++ output.covenantBinding.elim [] writeCovenantBinding)

def writeToccataOutput (output : ToccataTxOutput) : List UInt8 :=
  le64 output.value ++ (le16 output.scriptPublicKey.version ++
    writeVarBytes output.scriptPublicKey.script) ++
    (writeBool output.covenantBinding.isSome ++ output.covenantBinding.elim [] writeCovenantBinding)

structure ToccataEncodingFlags where
  excludeSignatureScript : Bool
  excludeMassCommit : Bool
  excludePayload : Bool

def ToccataEncodingFlags.full : ToccataEncodingFlags := ⟨false, false, false⟩

def writeToccataInput (flags : ToccataEncodingFlags) (input : ToccataTxInput) : List UInt8 :=
  hashToccataOutpoint input.previousOutpoint ++
    writeVarBytes (if flags.excludeSignatureScript then ByteVec.empty else input.signatureScript) ++
    le64 input.sequence ++ if flags.excludeMassCommit then [] else le16 input.computeBudget

def ToccataV1Tx.writeTransaction (tx : ToccataV1Tx) (flags : ToccataEncodingFlags) : List UInt8 :=
  le16 txVersionToccata ++
    (writeLen tx.inputs.length ++ tx.inputs.flatMap (writeToccataInput flags)) ++
    (writeLen tx.outputs.length ++ tx.outputs.flatMap writeToccataOutput) ++
    le64 tx.lockTime ++ tx.subnetworkId.toList ++ le64 tx.gas ++
    writeVarBytes (if flags.excludePayload then ByteVec.empty else tx.payload) ++
    if flags.excludeMassCommit then [] else le64 tx.mass

end Writers

section Layout
variable {α : Type*} {P : α → Prop}

lemma determines_varBytes (k : α → ByteVec) : Determines P (fun x => writeVarBytes (k x)) k :=
  Determines.sized k fun x _ => by simpa using (k x).length_lt

lemma determines_outpoint (k : α → KaspaOutpoint) :
    Determines P (fun x => hashToccataOutpoint (k x)) k := by
  have h := (Determines.bytes (P := P) fun x => (k x).transactionId).append
    (Determines.word32 fun x => (k x).index)
  refine h.imp fun x y _ _ he => ?_
  rw [Prod.mk.injEq] at he
  exact KaspaOutpoint.ext he.1 he.2

lemma determines_scriptPublicKey (k : α → ToccataScriptPublicKey) :
    Determines P (fun x => hashToccataScriptPublicKey (k x)) k := by
  have h := (Determines.word16 (P := P) fun x => (k x).version).append
    (determines_varBytes fun x => (k x).script)
  refine h.imp fun x y _ _ he => ?_
  rw [Prod.mk.injEq] at he
  exact ToccataScriptPublicKey.ext he.1 he.2

lemma determines_covenantBinding (k : α → CovenantBinding) :
    Determines P (fun x => writeCovenantBinding (k x)) k := by
  have h := (Determines.word16 (P := P) fun x => (k x).authorizingInput).append
    (Determines.bytes fun x => (k x).covenantId)
  refine h.imp fun x y _ _ he => ?_
  rw [Prod.mk.injEq] at he
  cases hx : k x
  cases hy : k y
  simp_all

lemma determines_flaggedBinding (k : α → Option CovenantBinding) :
    Determines P (fun x => writeBool (k x).isSome ++ (k x).elim [] writeCovenantBinding) k := by
  have h := ((determines_covenantBinding (P := fun _ => True) id).flagged.mono
    (Q := fun _ => True) (by simp)).comap k
  have henc : (fun x => writeBool (k x).isSome ++ (k x).elim [] writeCovenantBinding) =
      fun x => (k x).elim [0] fun b => 1 :: writeCovenantBinding b := by
    funext x
    cases k x <;> rfl
  rw [henc]
  refine (h.mono (Q := P) fun _ _ => trivial).imp fun x y _ _ he => ?_
  simpa using he

lemma determines_output (k : α → ToccataTxOutput) :
    Determines P (fun x => writeToccataOutput (k x)) k := by
  have h := ((Determines.word64 (P := P) fun x => (k x).value).append
    (determines_scriptPublicKey fun x => (k x).scriptPublicKey)).append
    (determines_flaggedBinding fun x => (k x).covenantBinding)
  refine h.imp fun x y _ _ he => ?_
  simp only [Prod.mk.injEq] at he
  exact ToccataTxOutput.ext he.1.1 he.1.2 he.2

lemma hashToccataOutputForSighash_eq :
    hashToccataOutputForSighash = writeToccataOutput := rfl

end Layout

section Erasure
variable (flags : ToccataEncodingFlags)

def ToccataTxInput.erase (input : ToccataTxInput) : ToccataTxInput :=
  { input with
    signatureScript := if flags.excludeSignatureScript then ByteVec.empty else input.signatureScript
    computeBudget := if flags.excludeMassCommit then 0 else input.computeBudget }

/-- The transaction with the fields blanked that the writer leaves out. -/
def ToccataV1Tx.erase (tx : ToccataV1Tx) : ToccataV1Tx :=
  { tx with
    inputs := tx.inputs.map (ToccataTxInput.erase flags)
    payload := if flags.excludePayload then ByteVec.empty else tx.payload
    mass := if flags.excludeMassCommit then 0 else tx.mass }

/-- The counts of inputs and outputs are machine words. -/
def ToccataV1Tx.Fits (tx : ToccataV1Tx) : Prop :=
  tx.inputs.length < 2^64 ∧ tx.outputs.length < 2^64

lemma determines_input :
    Determines (fun _ => True) (writeToccataInput flags) (ToccataTxInput.erase flags) := by
  have h := (((determines_outpoint (P := fun _ => True) ToccataTxInput.previousOutpoint).append
    (determines_varBytes fun input =>
      if flags.excludeSignatureScript then ByteVec.empty else input.signatureScript)).append
    (Determines.word64 ToccataTxInput.sequence)).append
    ((Determines.word16 ToccataTxInput.computeBudget).optedOut flags.excludeMassCommit 0)
  refine h.imp fun x y _ _ he => ?_
  simp only [Prod.mk.injEq] at he
  obtain ⟨⟨⟨houtpoint, hscript⟩, hsequence⟩, hbudget⟩ := he
  exact ToccataTxInput.ext houtpoint hscript hsequence hbudget

theorem determines_transaction :
    Determines ToccataV1Tx.Fits (fun tx => tx.writeTransaction flags)
      (ToccataV1Tx.erase flags) := by
  have hinputs := ((determines_input flags).counted 8).comap ToccataV1Tx.inputs
  have houtputs := ((determines_output (P := fun _ => True) id).counted 8).comap
    ToccataV1Tx.outputs
  have h := (((((((Determines.const (P := ToccataV1Tx.Fits) (le16 txVersionToccata)).append
    (hinputs.mono fun tx hfits => ⟨by simpa using hfits.1, by simp⟩)).append
    (houtputs.mono fun tx hfits => ⟨by simpa using hfits.2, by simp⟩)).append
    (Determines.word64 ToccataV1Tx.lockTime)).append
    (Determines.bytes ToccataV1Tx.subnetworkId)).append
    (Determines.word64 ToccataV1Tx.gas)).append
    (determines_varBytes fun tx => if flags.excludePayload then ByteVec.empty else tx.payload)).append
    ((Determines.word64 ToccataV1Tx.mass).optedOut flags.excludeMassCommit 0)
  refine h.imp fun x y _ _ he => ?_
  simp only [Prod.mk.injEq, List.map_id] at he
  obtain ⟨⟨⟨⟨⟨⟨⟨-, hin⟩, hout⟩, hlock⟩, hsubnetwork⟩, hgas⟩, hpayload⟩, hmass⟩ := he
  exact ToccataV1Tx.ext hin hout hlock hsubnetwork hgas hpayload hmass

lemma writeToccataInput_erase (input : ToccataTxInput) :
    writeToccataInput flags (input.erase flags) = writeToccataInput flags input := by
  cases hscript : flags.excludeSignatureScript <;> cases hmass : flags.excludeMassCommit <;>
    simp [writeToccataInput, ToccataTxInput.erase, hscript, hmass]

lemma writeTransaction_erase (tx : ToccataV1Tx) :
    (tx.erase flags).writeTransaction flags = tx.writeTransaction flags := by
  cases hpayload : flags.excludePayload <;> cases hmass : flags.excludeMassCommit <;>
    simp [ToccataV1Tx.writeTransaction, ToccataV1Tx.erase, List.flatMap_map,
      writeToccataInput_erase, hpayload, hmass]

variable {flags} in
/-- Two transactions are written alike exactly when they agree on what the flags keep. -/
theorem writeTransaction_eq_iff {t₁ t₂ : ToccataV1Tx} (h₁ : t₁.Fits) (h₂ : t₂.Fits) :
    t₁.writeTransaction flags = t₂.writeTransaction flags ↔ t₁.erase flags = t₂.erase flags := by
  constructor
  · intro h
    exact (determines_transaction flags).eq h₁ h₂ h
  · intro h
    rw [← writeTransaction_erase flags t₁, h, writeTransaction_erase]

end Erasure
end RgkProtocol.ToccataTx
