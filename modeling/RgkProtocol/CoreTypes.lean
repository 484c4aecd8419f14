import RgkProtocol.Hashing
import Mathlib.Data.List.Lex

/-!
# Chain ids, outpoints, receipt policies and tagged hashes

The `rgk-core` types that cross every crate boundary. The hash function is a parameter `H`;
a digest is `H` of a preimage that starts with the length-prefixed ASCII domain.
-/
namespace RgkProtocol.CoreTypes
open ByteStrings Hashing

inductive KaspaChainId where
  | kaspaMainnet
  | kaspaTestnet
  | kaspaSimnet
  | kaspaDevnet
  | kaspaLocalToccata
  deriving DecidableEq

namespace KaspaChainId

def tag : UInt8 := 0x4b

def asU8 : KaspaChainId → UInt8
  | kaspaMainnet => 0x01
  | kaspaTestnet => 0x02
  | kaspaSimnet => 0x03
  | kaspaDevnet => 0x04
  | kaspaLocalToccata => 0x05

def fromTag (tag : UInt8) : Option KaspaChainId :=
  if tag = 0x01 then some kaspaMainnet
  else if tag = 0x02 then some kaspaTestnet
  else if tag = 0x03 then some kaspaSimnet
  else if tag = 0x04 then some kaspaDevnet
  else if tag = 0x05 then some kaspaLocalToccata
  else none

theorem fromTag_eq_some {tag : UInt8} {c : KaspaChainId} :
    fromTag tag = some c ↔ tag = c.asU8 := by
  constructor
  · intro h
    unfold fromTag at h
    split_ifs at h <;> cases h <;> assumption
  · rintro rfl
    cases c <;> rfl

@[simp] theorem asU8_inj {c d : KaspaChainId} : c.asU8 = d.asU8 ↔ c = d := by
  constructor
  · intro h
    have hh := fromTag_eq_some.mpr h
    rw [fromTag_eq_some.mpr rfl] at hh
    exact Option.some.inj hh
  · rintro rfl
    rfl

end KaspaChainId

/-- The order key of a byte string: byte by byte. -/
def bytesKey {n : ℕ} (b : Bytes n) : List ℕ := b.toList.map UInt8.toNat

lemma bytesKey_injective (n : ℕ) : Function.Injective (bytesKey : Bytes n → List ℕ) := by
  intro x y h
  have hi : Function.Injective UInt8.toNat := fun a b hab => UInt8.toNat_inj.mp hab
  exact Bytes.ext (hi.list_map h)

instance {n : ℕ} : LinearOrder (Bytes n) := LinearOrder.lift' bytesKey (bytesKey_injective n)

lemma map_toNat_lt {l m : List UInt8} : l.map UInt8.toNat < m.map UInt8.toNat ↔ l < m := by
  induction l generalizing m with
  | nil => cases m <;> simp
  | cons a l ih =>
    cases m with
    | nil => simp
    | cons b m =>
      simp only [List.map_cons, List.cons_lt_cons_iff, ih, UInt8.lt_iff_toNat_lt, UInt8.toNat_inj]

lemma bytes_lt_iff {n : ℕ} {x y : Bytes n} : x < y ↔ x.toList < y.toList := map_toNat_lt

@[ext] structure KaspaOutpoint where
  transactionId : Bytes32
  index : UInt32
  deriving DecidableEq

def KaspaOutpoint.null : KaspaOutpoint := ⟨Bytes.zero, 0⟩

/-- The lexicographic order key of an outpoint: the id bytes, then the index. -/
def KaspaOutpoint.key (o : KaspaOutpoint) : List ℕ :=
  bytesKey o.transactionId ++ [o.index.toNat]

lemma KaspaOutpoint.key_injective : Function.Injective KaspaOutpoint.key := by
  rintro ⟨x, i⟩ ⟨y, j⟩ h
  have hlen : (bytesKey x).length = (bytesKey y).length := by simp [bytesKey]
  obtain ⟨hx, hi⟩ := List.append_inj h hlen
  obtain rfl : x = y := bytesKey_injective 32 hx
  obtain rfl : i = j := UInt32.toNat_inj.mp (by simpa using hi)
  rfl

instance : LinearOrder KaspaOutpoint := LinearOrder.lift' KaspaOutpoint.key KaspaOutpoint.key_injective

inductive ProofMode where
  | verifierReceipt
  | zkReceipt
  | p2mrRet
  deriving DecidableEq

namespace ProofMode

def asU8 : ProofMode → UInt8
  | verifierReceipt => 0x01
  | zkReceipt => 0x02
  | p2mrRet => 0x03

def tag : UInt8 := 0x50

def fromTag (tag : UInt8) : Option ProofMode :=
  if tag = 0x01 then some verifierReceipt
  else if tag = 0x02 then some zkReceipt
  else if tag = 0x03 then some p2mrRet
  else none

theorem fromTag_eq_some {tag : UInt8} {m : ProofMode} : fromTag tag = some m ↔ tag = m.asU8 := by
  constructor
  · intro h
    unfold fromTag at h
    split_ifs at h <;> cases h <;> assumption
  · rintro rfl
    cases m <;> rfl

end ProofMode

inductive ReceiptPolicy where
  | any
  | verifierOnly
  | zkOrVerifier
  deriving DecidableEq

namespace ReceiptPolicy

def asU8 : ReceiptPolicy → UInt8
  | any => 0x01
  | verifierOnly => 0x02
  | zkOrVerifier => 0x03

def tag : UInt8 := 0x52

def encode (p : ReceiptPolicy) : List UInt8 := [tag, p.asU8]

def fromTag (tag : UInt8) : Option ReceiptPolicy :=
  if tag = 0x01 then some any
  else if tag = 0x02 then some verifierOnly
  else if tag = 0x03 then some zkOrVerifier
  else none

theorem fromTag_eq_some {tag : UInt8} {p : ReceiptPolicy} :
    fromTag tag = some p ↔ tag = p.asU8 := by
  constructor
  · intro h
    unfold fromTag at h
    split_ifs at h <;> cases h <;> assumption
  · rintro rfl
    cases p <;> rfl

/-- Whether a proof mode satisfies the policy. -/
def admits : ReceiptPolicy → ProofMode → Bool
  | any, _ => true
  | verifierOnly, .verifierReceipt => true
  | verifierOnly, _ => false
  | zkOrVerifier, .verifierReceipt => true
  | zkOrVerifier, .zkReceipt => true
  | zkOrVerifier, .p2mrRet => false

end ReceiptPolicy

section TaggedHash

def utf8Bytes (s : String) : List UInt8 := s.toUTF8.data.toList

/-- The preimage of a tagged hash: tag length, tag, payload. -/
def taggedPreimage (domain : String) (payload : List UInt8) : List UInt8 :=
  le32 (UInt32.ofNat (utf8Bytes domain).length) ++ utf8Bytes domain ++ payload

@[simp] theorem taggedPreimage_inj {domain : String} {x y : List UInt8} :
    taggedPreimage domain x = taggedPreimage domain y ↔ x = y := by
  simp [taggedPreimage]

variable (H : List UInt8 → Bytes32)

def domainHashStr (domain : String) (payload : List UInt8) : Bytes32 :=
  H (taggedPreimage domain payload)

theorem payload_eq_of_domainHashStr_eq {H : List UInt8 → Bytes32} {Q : Set (List UInt8)}
    (hcf : CollisionFree H Q) {domain : String} {x y : List UInt8}
    (hx : taggedPreimage domain x ∈ Q) (hy : taggedPreimage domain y ∈ Q)
    (h : domainHashStr H domain x = domainHashStr H domain y) : x = y :=
  taggedPreimage_inj.mp (hcf.eq hx hy h)

lemma domainHashStr_ne {H : List UInt8 → Bytes32} {Q : Set (List UInt8)}
    (hcf : CollisionFree H Q) {domain domain' : String} {x y : List UInt8}
    (hlen : UInt32.ofNat (utf8Bytes domain).length ≠ UInt32.ofNat (utf8Bytes domain').length)
    (hx : taggedPreimage domain x ∈ Q) (hy : taggedPreimage domain' y ∈ Q) :
    domainHashStr H domain x ≠ domainHashStr H domain' y := by
  intro h
  have heq := hcf.eq hx hy h
  rw [taggedPreimage, taggedPreimage, List.append_assoc, List.append_assoc, le32_append_inj] at heq
  exact hlen heq.1

end TaggedHash

/-- The state of one asset under one covenant on one chain, summarised by its digest. -/
structure RgkStateCommitment where
  version : UInt16
  chainId : KaspaChainId
  covenantId : Bytes32
  assetId : Bytes32
  stateDigest : Bytes32
  receiptPolicy : ReceiptPolicy
  deriving DecidableEq

/-- Explicit proof material for a receipt-policy change. -/
structure PolicyMigrationProof where
  previousPolicy : ReceiptPolicy
  newPolicy : ReceiptPolicy
  previousStateDigest : Bytes32
  newStateDigest : Bytes32
  transitionDigest : Bytes32
  authorizationCommitment : Bytes32
  migrationCommitment : Bytes32
  deriving DecidableEq

def policyMigrationPayload (previousPolicy newPolicy : ReceiptPolicy)
    (previousStateDigest newStateDigest transitionDigest authorizationCommitment : Bytes32) :
    List UInt8 :=
  previousPolicy.encode ++ newPolicy.encode ++ previousStateDigest.toList ++
    newStateDigest.toList ++ transitionDigest.toList ++ authorizationCommitment.toList

def policyMigrationCommitment (H : List UInt8 → Bytes32) (previousPolicy newPolicy : ReceiptPolicy)
    (previousStateDigest newStateDigest transitionDigest authorizationCommitment : Bytes32) :
    Bytes32 :=
  domainHashStr H "rgk:policy-migration"
    (policyMigrationPayload previousPolicy newPolicy previousStateDigest newStateDigest
      transitionDigest authorizationCommitment)

end RgkProtocol.CoreTypes
