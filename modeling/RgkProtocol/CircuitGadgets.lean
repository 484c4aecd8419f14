import RgkProtocol.FieldPacking
import RgkProtocol.SemanticStatement

/-!
# Constraint gadgets

The byte and field constraints that all allocation circuits share, as decidable predicates on
the values of an assignment. Byte variables hold bytes in every assignment; sums are taken in
the BN254 scalar field, and the hash gadget computes the hash.
-/
namespace RgkProtocol.CircuitGadgets
open ByteStrings FieldPacking Hashing CoreTypes SemanticStatement

section Field

/-- The order of the BN254 scalar field. -/
def bn254 : ℕ := 21888242871839275222246405745257275088548364400416034343698204186575808495617

abbrev Fr : Type := ZMod bn254

lemma pow_le_bn254 : 256^8 ≤ bn254 := by
  unfold bn254
  omega

def leBytesAsFr (bytes : List UInt8) : Fr := leField bn254 bytes

def publicInputsAsVars (publicInputs : List UInt8) : List Fr := packBytes bn254 publicInputs

def digestBytesAsFrs (digest : List UInt8) : List Fr := packBytes bn254 digest

def enforceFrsEqual (lhs rhs : List Fr) : Prop := lhs = rhs

instance (lhs rhs : List Fr) : Decidable (enforceFrsEqual lhs rhs) :=
  inferInstanceAs (Decidable (lhs = rhs))

end Field

inductive SynthesisError where
  | unsatisfiable
  deriving DecidableEq

section Bytes

def enforceNonzeroBytes (bytes : List UInt8) : Prop := bytes ≠ List.replicate bytes.length 0

instance (bytes : List UInt8) : Decidable (enforceNonzeroBytes bytes) :=
  inferInstanceAs (Decidable (bytes ≠ List.replicate bytes.length 0))

lemma enforceNonzeroBytes_toList {n : ℕ} {b : Bytes n} :
    enforceNonzeroBytes b.toList ↔ b ≠ Bytes.zero := by
  rw [enforceNonzeroBytes, ne_eq, ne_eq, not_iff_not, b.length_toList]
  exact Bytes.toList_inj (y := Bytes.zero)

lemma enforceNonzeroBytes_le64 {x : UInt64} : enforceNonzeroBytes (le64 x) ↔ x ≠ 0 := by
  have hz : List.replicate (le64 x).length 0 = le64 0 := by
    rw [length_le64]
    rfl
  rw [enforceNonzeroBytes, hz, ne_eq, le64_inj]

def enforceChainIdLayout (l : List UInt8) : Prop :=
  byteAt l 0 = KaspaChainId.tag ∧ byteAt l 1 = 0 ∧ byteAt l 2 = 0 ∧ byteAt l 3 = 0 ∧
    byteAt l 4 ∈ [KaspaChainId.kaspaMainnet.asU8, KaspaChainId.kaspaTestnet.asU8,
      KaspaChainId.kaspaSimnet.asU8, KaspaChainId.kaspaDevnet.asU8,
      KaspaChainId.kaspaLocalToccata.asU8] ∧
    byteAt l 5 = 0 ∧ byteAt l 6 = 0 ∧ byteAt l 7 = 0

instance (l : List UInt8) : Decidable (enforceChainIdLayout l) := by
  unfold enforceChainIdLayout
  infer_instance

lemma eq_byteAt_of_length_eight {l : List UInt8} (h : l.length = 8) :
    l = [byteAt l 0, byteAt l 1, byteAt l 2, byteAt l 3, byteAt l 4, byteAt l 5, byteAt l 6,
      byteAt l 7] := by
  match l with
  | [a, b, c, d, e, f, g, k] => rfl

lemma enforceChainIdLayout_iff {l : List UInt8} (h : l.length = 8) :
    enforceChainIdLayout l ↔ ∃ c, l = chainIdTaggedLeU32 c := by
  constructor
  · rintro ⟨h0, h1, h2, h3, h4, h5, h6, h7⟩
    have hchain : ∃ c : KaspaChainId, byteAt l 4 = c.asU8 := by
      simp only [List.mem_cons, List.not_mem_nil, or_false] at h4
      rcases h4 with h4 | h4 | h4 | h4 | h4
      all_goals exact ⟨_, h4⟩
    obtain ⟨c, hc⟩ := hchain
    refine ⟨c, ?_⟩
    rw [eq_byteAt_of_length_eight h, h0, h1, h2, h3, hc, h5, h6, h7]
    cases c <;> rfl
  · rintro ⟨c, rfl⟩
    cases c <;> decide

end Bytes

section Allocations

def allocationWitnessLen : ℕ := 157

def enforceAllocationCommonForChain (chainValue : UInt8) (allocation : List UInt8) : Prop :=
  byteAt allocation 0 = chainValue ∧
    enforceNonzeroBytes (slice allocation 1 37) ∧
    enforceNonzeroBytes (slice allocation 37 69) ∧
    enforceNonzeroBytes (slice allocation 69 101) ∧
    enforceNonzeroBytes (slice allocation 109 117) ∧
    enforceNonzeroBytes (slice allocation 117 125) ∧
    enforceNonzeroBytes (slice allocation 125 157)

instance (chainValue : UInt8) (allocation : List UInt8) :
    Decidable (enforceAllocationCommonForChain chainValue allocation) := by
  unfold enforceAllocationCommonForChain
  infer_instance

/-- The comparison takes bytes 1 to 40: the outpoint and four bytes of the covenant id. -/
def enforceDistinctOutpoints (allocations : List (List UInt8)) : Prop :=
  allocations.Pairwise (fun left right => slice left 1 41 ≠ slice right 1 41)

instance (allocations : List (List UInt8)) : Decidable (enforceDistinctOutpoints allocations) := by
  unfold enforceDistinctOutpoints
  infer_instance

def enforceSpentAnchorsNotReused (spent new : List (List UInt8)) : Prop :=
  ∀ s ∈ spent, ∀ n ∈ new, slice s 1 41 ≠ slice n 1 41

instance (spent new : List (List UInt8)) : Decidable (enforceSpentAnchorsNotReused spent new) := by
  unfold enforceSpentAnchorsNotReused
  infer_instance

/-- The amount that an allocation record carries. -/
def amountAt (allocation : List UInt8) : ℕ := leNat (slice allocation 117 125)

def sumAllocationAmounts (allocations : List (List UInt8)) : Fr :=
  sumField (fun allocation => leBytesAsFr (slice allocation 117 125)) allocations

lemma amountAt_lt (allocation : List UInt8) : amountAt allocation < 2^64 := by
  have hlen : (slice allocation 117 125).length ≤ 8 := by simp [slice]
  calc amountAt allocation
      < 256^(slice allocation 117 125).length := leNat_lt _
    _ ≤ 256^8 := Nat.pow_le_pow_right (by norm_num) hlen
    _ = 2^64 := by norm_num

lemma sumAllocationAmounts_eq_iff {allocations : List (List UInt8)}
    (hcount : allocations.length*2^64 < bn254) {word : List UInt8} (hword : word.length = 8) :
    sumAllocationAmounts allocations = leBytesAsFr word ↔
      (allocations.map amountAt).sum = leNat word := by
  have hw := leNat_lt word
  rw [hword] at hw
  exact sumField_eq_iff (fun _ => rfl) (fun a => (amountAt_lt a).le) hcount
    (hw.trans_le pow_le_bn254)

end Allocations

section Hash

def domainHashDigest (H : List UInt8 → Bytes32) (domain : String) (payload : List UInt8) :
    List UInt8 := (domainHashStr H domain payload).toList

end Hash
end RgkProtocol.CircuitGadgets
