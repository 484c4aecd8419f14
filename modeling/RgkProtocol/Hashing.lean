import RgkProtocol.ByteStrings
import Mathlib.Data.Set.Function
import Mathlib.Data.List.Nodup

/-!
# Hash functions and SHA-256

A 32-byte digest cannot be injective on all byte strings, so collision freeness is relative
to a set `Q` of inputs: nobody ever hashed two different strings of `Q` to one digest.
`Sha256.digest` is the executable FIPS 180-4 function, used wherever a development needs a
concrete hash; the general results keep the hash as a parameter.
-/
namespace RgkProtocol.Hashing
open ByteStrings

abbrev Bytes32 := Bytes 32

instance bytes32_lawfulBEq : LawfulBEq Bytes32 := inferInstance

/-- No two different inputs of `Q` have one digest. -/
def CollisionFree {α β : Type*} (H : α → β) (Q : Set α) : Prop := Set.InjOn H Q

/-- No input of `Q` hashes to the zero string. -/
def NeverZero {α : Type*} (H : α → Bytes32) (Q : Set α) : Prop := ∀ x ∈ Q, H x ≠ Bytes.zero

namespace CollisionFree
variable {α β : Type*} {H : α → β} {Q : Set α}

theorem eq (hf : CollisionFree H Q) {x y : α} (hx : x ∈ Q) (hy : y ∈ Q) (h : H x = H y) :
    x = y := hf hx hy h

theorem mono (hf : CollisionFree H Q) {R : Set α} (h : R ⊆ Q) : CollisionFree H R :=
  Set.InjOn.mono h hf

theorem of_nodup {l : List α} (h : (l.map H).Nodup) : CollisionFree H {x | x ∈ l} :=
  fun _ hx _ hy he => List.inj_on_of_nodup_map h hx hy he

theorem of_nodup_dedup [DecidableEq α] {l : List α} (h : (l.dedup.map H).Nodup) :
    CollisionFree H {x | x ∈ l} :=
  (of_nodup h).mono fun _ => List.mem_dedup.mpr

theorem pair {x y : α} (h : H x ≠ H y) : CollisionFree H {x, y} := by
  rintro a (rfl | rfl) b (rfl | rfl) he
  · rfl
  · exact absurd he h
  · exact absurd he.symm h
  · rfl

end CollisionFree

/-- The digest of a string, or zero bytes in its place where nothing is hashed. -/
def digestOrZero {α : Type*} (H : α → Bytes32) (input : Option α) : Bytes32 :=
  input.elim Bytes.zero H

/-- The placeholder is told from a digest where no digest is zero. -/
theorem digestOrZero_inj {α : Type*} {H : α → Bytes32} {Q : Set α} (hfree : CollisionFree H Q)
    (hzero : NeverZero H Q) {a b : Option α} (ha : ∀ x ∈ a, x ∈ Q) (hb : ∀ x ∈ b, x ∈ Q) :
    digestOrZero H a = digestOrZero H b ↔ a = b := by
  refine ⟨fun h => ?_, congrArg _⟩
  cases a with
  | none =>
    cases b with
    | none => rfl
    | some y => exact absurd h.symm (hzero y (hb y rfl))
  | some x =>
    cases b with
    | none => exact absurd h (hzero x (ha x rfl))
    | some y => exact congrArg some (hfree.eq (ha x rfl) (hb y rfl) h)

namespace Sha256

def word : ℕ := 4294967296

/-- A word written twice: its rotations are the low words of the shifts. -/
def twice (x : ℕ) : ℕ := x*4294967297

/-- The exclusive or of three rotations to the right. -/
def rotations (i j k x : ℕ) : ℕ := ((twice x >>> i) ^^^ (twice x >>> j) ^^^ (twice x >>> k)) % word

/-- The exclusive or of two rotations and a shift. -/
def rotationsShift (i j k x : ℕ) : ℕ := (((twice x >>> i) ^^^ (twice x >>> j)) % word) ^^^ (x >>> k)

/-- The round constants, FIPS 180-4 section 4.2.2. -/
def roundConstants : List ℕ := [
  0x428a2f98, 0x71374491, 0xb5c0fbcf, 0xe9b5dba5, 0x3956c25b, 0x59f111f1, 0x923f82a4, 0xab1c5ed5,
  0xd807aa98, 0x12835b01, 0x243185be, 0x550c7dc3, 0x72be5d74, 0x80deb1fe, 0x9bdc06a7, 0xc19bf174,
  0xe49b69c1, 0xefbe4786, 0x0fc19dc6, 0x240ca1cc, 0x2de92c6f, 0x4a7484aa, 0x5cb0a9dc, 0x76f988da,
  0x983e5152, 0xa831c66d, 0xb00327c8, 0xbf597fc7, 0xc6e00bf3, 0xd5a79147, 0x06ca6351, 0x14292967,
  0x27b70a85, 0x2e1b2138, 0x4d2c6dfc, 0x53380d13, 0x650a7354, 0x766a0abb, 0x81c2c92e, 0x92722c85,
  0xa2bfe8a1, 0xa81a664b, 0xc24b8b70, 0xc76c51a3, 0xd192e819, 0xd6990624, 0xf40e3585, 0x106aa070,
  0x19a4c116, 0x1e376c08, 0x2748774c, 0x34b0bcb5, 0x391c0cb3, 0x4ed8aa4a, 0x5b9cca4f, 0x682e6ff3,
  0x748f82ee, 0x78a5636f, 0x84c87814, 0x8cc70208, 0x90befffa, 0xa4506ceb, 0xbef9a3f7, 0xc67178f2]

/-- The eight working variables. -/
structure State where
  a : ℕ
  b : ℕ
  c : ℕ
  d : ℕ
  e : ℕ
  f : ℕ
  g : ℕ
  h : ℕ

def initial : State :=
  ⟨0x6a09e667, 0xbb67ae85, 0x3c6ef372, 0xa54ff53a, 0x510e527f, 0x9b05688c, 0x1f83d9ab, 0x5be0cd19⟩

def State.add (x y : State) : State :=
  ⟨(x.a+y.a) % word, (x.b+y.b) % word, (x.c+y.c) % word, (x.d+y.d) % word,
    (x.e+y.e) % word, (x.f+y.f) % word, (x.g+y.g) % word, (x.h+y.h) % word⟩

/-- Sixteen consecutive words of the message schedule. -/
structure Window where
  w0 : ℕ
  w1 : ℕ
  w2 : ℕ
  w3 : ℕ
  w4 : ℕ
  w5 : ℕ
  w6 : ℕ
  w7 : ℕ
  w8 : ℕ
  w9 : ℕ
  w10 : ℕ
  w11 : ℕ
  w12 : ℕ
  w13 : ℕ
  w14 : ℕ
  w15 : ℕ

def Window.ofBlock (l : List ℕ) : Window :=
  ⟨l.getD 0 0, l.getD 1 0, l.getD 2 0, l.getD 3 0, l.getD 4 0, l.getD 5 0, l.getD 6 0, l.getD 7 0,
    l.getD 8 0, l.getD 9 0, l.getD 10 0, l.getD 11 0, l.getD 12 0, l.getD 13 0, l.getD 14 0,
    l.getD 15 0⟩

/-- The window one word later. -/
def Window.slide (w : Window) : Window :=
  ⟨w.w1, w.w2, w.w3, w.w4, w.w5, w.w6, w.w7, w.w8, w.w9, w.w10, w.w11, w.w12, w.w13, w.w14, w.w15,
    (w.w0 + rotationsShift 7 18 3 w.w1 + w.w9 + rotationsShift 17 19 10 w.w14) % word⟩

def step (s : State) (k w : ℕ) : State :=
  let ch := (s.e &&& s.f) ^^^ ((word-1-s.e) &&& s.g)
  let t1 := s.h + rotations 6 11 25 s.e + ch + k + w
  let maj := (s.a &&& s.b) ^^^ (s.a &&& s.c) ^^^ (s.b &&& s.c)
  ⟨(t1 + rotations 2 13 22 s.a + maj) % word, s.a, s.b, s.c, (s.d+t1) % word, s.e, s.f, s.g⟩

/-- One round per constant. -/
def rounds : List ℕ → Window → State → State
  | [], _, s => s
  | k :: ks, w, s => rounds ks w.slide (step s k w.w0)

def compress (s : State) (block : List ℕ) : State :=
  s.add (rounds roundConstants (Window.ofBlock block) s)

/-- Big-endian 32-bit words of a byte string. -/
def words : List ℕ → List ℕ
  | a :: b :: c :: d :: rest => (((a*256+b)*256+c)*256+d) :: words rest
  | _ => []

def pad (m : List ℕ) : List ℕ :=
  let n := m.length
  m ++ 0x80 :: List.replicate ((119-n % 64) % 64) 0 ++
    (List.range 8).map (fun i => 8*n/256^(7-i) % 256)

def blocks : ℕ → List ℕ → List (List ℕ)
  | 0, _ => []
  | n+1, l => l.take 16 :: blocks n (l.drop 16)

def wordBytes (w : ℕ) : List UInt8 :=
  [UInt8.ofNat (w/16777216), UInt8.ofNat (w/65536), UInt8.ofNat (w/256), UInt8.ofNat w]

def State.bytes (s : State) : Bytes32 :=
  ⟨wordBytes s.a ++ wordBytes s.b ++ wordBytes s.c ++ wordBytes s.d ++
    wordBytes s.e ++ wordBytes s.f ++ wordBytes s.g ++ wordBytes s.h, rfl⟩

def digest (m : List UInt8) : Bytes32 :=
  let ws := words (pad (m.map UInt8.toNat))
  ((blocks (ws.length/16) ws).foldl compress initial).bytes

example : (digest [97, 98, 99]).toList.take 4 = [0xba, 0x78, 0x16, 0xbf] := by decide +kernel

end Sha256
end RgkProtocol.Hashing
