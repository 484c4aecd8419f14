import RgkProtocol.FieldPacking
import RgkProtocol.Checked

/-!
# Proof systems with keys

A relation says which witnesses prove a list of public field elements. A proof system verifies
proofs under keys that travel as bytes. What an accepted proof means depends on the relation its
key was set up for, and on nothing else.
-/
namespace RgkProtocol.KeyedProofs
open ByteStrings Checked

/-- The statements of a circuit and their witnesses. -/
structure Relation (F : Type) where
  Witness : Type
  Holds : List F → Witness → Prop

def Relation.Satisfiable {F : Type} (R : Relation F) (x : List F) : Prop := ∃ w, R.Holds x w

/-- The relation that every statement satisfies. -/
def Relation.trivial (F : Type) : Relation F := ⟨Unit, fun _ _ => True⟩

structure ProofSystem (F : Type) where
  Key : Type
  Proof : Type
  serializeInput : F → List UInt8
  deserializeInput : List UInt8 → Except String F
  deserializeKey : List UInt8 → Except String Key
  deserializeProof : List UInt8 → Except String Proof
  verify : Key → List F → Proof → Except String Bool
  SetUpFor : Key → Relation F → Prop
  length_serializeInput : ∀ x, (serializeInput x).length = 32
  deserialize_serialize : ∀ x, deserializeInput (serializeInput x) = .ok x
  sound : ∀ key R x proof, SetUpFor key R → verify key x proof = .ok true → R.Satisfiable x

section Serialization
variable {q : ℕ}

/-- The canonical little-endian form of a field element. -/
def serializeField (x : ZMod q) : List UInt8 := leBytes 32 x.val

def deserializeField (q : ℕ) (bytes : List UInt8) : Except String (ZMod q) := do
  failIf (bytes.length ≠ 32 ∨ q ≤ leNat bytes) "the input buffer contained invalid data"
  .ok (leNat bytes : ZMod q)

lemma deserializeField_serializeField [NeZero q] (hq : q ≤ 256^32) (x : ZMod q) :
    deserializeField q (serializeField x) = .ok x := by
  have hval : leNat (serializeField x) = x.val := by
    rw [serializeField, leNat_leBytes, Nat.mod_eq_of_lt ((ZMod.val_lt x).trans_le hq)]
  refine unit_bind_eq_ok.mpr ⟨failIf_eq_ok.mpr ?_, ?_⟩
  · rw [hval]
    simp [serializeField, ZMod.val_lt x]
  · rw [hval, ZMod.natCast_zmod_val]

end Serialization

/-- The ideal system: the bytes of a key name a relation, and a proof is accepted exactly when
the statement has a witness. Anybody may use the key of any named relation. -/
noncomputable def idealSystem (q : ℕ) [NeZero q] (hq : q ≤ 256^32)
    (named : List UInt8 → Relation (ZMod q)) : ProofSystem (ZMod q) where
  Key := List UInt8
  Proof := Unit
  serializeInput := serializeField
  deserializeInput := deserializeField q
  deserializeKey bytes := .ok bytes
  deserializeProof _ := .ok ()
  verify key x _ := .ok (@decide ((named key).Satisfiable x) (Classical.propDecidable _))
  SetUpFor key R := named key = R
  length_serializeInput x := by simp [serializeField]
  deserialize_serialize := deserializeField_serializeField hq
  sound key R x _ hkey hverify := by
    rw [← hkey]
    exact @of_decide_eq_true _ (Classical.propDecidable _) (Except.ok.inj hverify)

lemma idealSystem_verify {q : ℕ} [NeZero q] {hq : q ≤ 256^32}
    {named : List UInt8 → Relation (ZMod q)} {key : List UInt8} {x : List (ZMod q)}
    (h : (named key).Satisfiable x) (proof : Unit) :
    (idealSystem q hq named).verify key x proof = .ok true :=
  congrArg Except.ok (@decide_eq_true _ (Classical.propDecidable _) h)

end RgkProtocol.KeyedProofs
