import Mathlib.Data.List.Basic
import Mathlib.Data.UInt
import Mathlib.Tactic.Ring

/-!
# Fixed-width byte strings and little-endian words

Byte strings of a width fixed in the type, little-endian words, and the cancellation
rules that make a concatenation of fixed-width fields injective.
-/
namespace RgkProtocol.ByteStrings

/-- Little-endian encoding of `n` in `w` bytes; a value that does not fit is truncated. -/
def leBytes : ℕ → ℕ → List UInt8
  | 0, _ => []
  | w+1, n => UInt8.ofNat (n % 256) :: leBytes w (n/256)

def leNat : List UInt8 → ℕ
  | [] => 0
  | b :: bs => b.toNat + 256*leNat bs

@[simp] theorem length_leBytes (w n : ℕ) : (leBytes w n).length = w := by
  induction w generalizing n with
  | zero => rfl
  | succ w ih => simp [leBytes, ih]

theorem leNat_lt (bs : List UInt8) : leNat bs < 256^bs.length := by
  induction bs with
  | nil => simp [leNat]
  | cons b bs ih =>
    have hb := b.toNat_lt
    simp only [leNat, List.length_cons, pow_succ]
    omega

theorem leNat_leBytes (w n : ℕ) : leNat (leBytes w n) = n % 256^w := by
  induction w generalizing n with
  | zero => simp [leBytes, leNat, Nat.mod_one]
  | succ w ih =>
    have hb : (UInt8.ofNat (n % 256)).toNat = n % 256 := by
      rw [UInt8.toNat_ofNat']
      exact Nat.mod_eq_of_lt (Nat.mod_lt _ (by norm_num))
    rw [leBytes, leNat, ih, hb, pow_succ, mul_comm (256^w) 256, Nat.mod_mul]

theorem leBytes_leNat (bs : List UInt8) : leBytes bs.length (leNat bs) = bs := by
  induction bs with
  | nil => rfl
  | cons b bs ih =>
    have hb := b.toNat_lt
    have hm : (b.toNat + 256*leNat bs) % 256 = b.toNat := by omega
    have hd : (b.toNat + 256*leNat bs)/256 = leNat bs := by omega
    simp only [List.length_cons, leNat, leBytes, hm, hd, ih, UInt8.ofNat_toNat]

theorem leNat_injective {xs ys : List UInt8} (hlen : xs.length = ys.length)
    (h : leNat xs = leNat ys) : xs = ys := by
  rw [← leBytes_leNat xs, ← leBytes_leNat ys, hlen, h]

theorem leBytes_injective {w m n : ℕ} (hm : m < 256^w) (hn : n < 256^w)
    (h : leBytes w m = leBytes w n) : m = n := by
  have hh := congrArg leNat h
  rwa [leNat_leBytes, leNat_leBytes, Nat.mod_eq_of_lt hm, Nat.mod_eq_of_lt hn] at hh

theorem append_cancel {α : Type*} {x y s t : List α} (hlen : x.length = y.length) :
    x ++ s = y ++ t ↔ x = y ∧ s = t := by
  constructor
  · intro h
    exact List.append_inj h hlen
  · rintro ⟨rfl, rfl⟩
    rfl

def le16 (x : UInt16) : List UInt8 := leBytes 2 x.toNat
def le32 (x : UInt32) : List UInt8 := leBytes 4 x.toNat
def le64 (x : UInt64) : List UInt8 := leBytes 8 x.toNat

@[simp] theorem length_le16 (x : UInt16) : (le16 x).length = 2 := length_leBytes 2 _
@[simp] theorem length_le32 (x : UInt32) : (le32 x).length = 4 := length_leBytes 4 _
@[simp] theorem length_le64 (x : UInt64) : (le64 x).length = 8 := length_leBytes 8 _

@[simp] theorem le16_inj {x y : UInt16} : le16 x = le16 y ↔ x = y := by
  refine ⟨fun h => UInt16.toNat_inj.mp (leBytes_injective ?_ ?_ h), congrArg le16⟩
  · exact x.toNat_lt
  · exact y.toNat_lt

@[simp] theorem le32_inj {x y : UInt32} : le32 x = le32 y ↔ x = y := by
  refine ⟨fun h => UInt32.toNat_inj.mp (leBytes_injective ?_ ?_ h), congrArg le32⟩
  · exact x.toNat_lt
  · exact y.toNat_lt

@[simp] theorem le64_inj {x y : UInt64} : le64 x = le64 y ↔ x = y := by
  refine ⟨fun h => UInt64.toNat_inj.mp (leBytes_injective ?_ ?_ h), congrArg le64⟩
  · exact x.toNat_lt
  · exact y.toNat_lt

@[simp] theorem le32_append_inj {x y : UInt32} {s t : List UInt8} :
    le32 x ++ s = le32 y ++ t ↔ x = y ∧ s = t := by
  rw [append_cancel (by simp), le32_inj]

@[simp] theorem le64_append_inj {x y : UInt64} {s t : List UInt8} :
    le64 x ++ s = le64 y ++ t ↔ x = y ∧ s = t := by
  rw [append_cancel (by simp), le64_inj]

@[simp] theorem leNat_le64 (x : UInt64) : leNat (le64 x) = x.toNat := by
  rw [le64, leNat_leBytes]
  exact Nat.mod_eq_of_lt x.toNat_lt

/-- The 64-bit word that eight little-endian bytes denote. -/
def u64OfLe (bs : List UInt8) : UInt64 := UInt64.ofNat (leNat bs)
def u32OfLe (bs : List UInt8) : UInt32 := UInt32.ofNat (leNat bs)
def u16OfLe (bs : List UInt8) : UInt16 := UInt16.ofNat (leNat bs)

theorem toNat_u64OfLe {bs : List UInt8} (hlen : bs.length = 8) :
    (u64OfLe bs).toNat = leNat bs := by
  have hh := leNat_lt bs
  rw [hlen] at hh
  rw [u64OfLe, UInt64.toNat_ofNat']
  exact Nat.mod_eq_of_lt hh

@[simp] theorem le64_u64OfLe {bs : List UInt8} (hlen : bs.length = 8) :
    le64 (u64OfLe bs) = bs := by
  rw [le64, toNat_u64OfLe hlen, ← hlen, leBytes_leNat]

@[simp] theorem le32_u32OfLe {bs : List UInt8} (hlen : bs.length = 4) :
    le32 (u32OfLe bs) = bs := by
  have hh := leNat_lt bs
  rw [hlen] at hh
  have hn : (u32OfLe bs).toNat = leNat bs := by
    rw [u32OfLe, UInt32.toNat_ofNat']
    exact Nat.mod_eq_of_lt hh
  rw [le32, hn, ← hlen, leBytes_leNat]

@[simp] theorem le16_u16OfLe {bs : List UInt8} (hlen : bs.length = 2) :
    le16 (u16OfLe bs) = bs := by
  have hh := leNat_lt bs
  rw [hlen] at hh
  have hn : (u16OfLe bs).toNat = leNat bs := by
    rw [u16OfLe, UInt16.toNat_ofNat']
    exact Nat.mod_eq_of_lt hh
  rw [le16, hn, ← hlen, leBytes_leNat]

@[simp] theorem u16OfLe_le16 (x : UInt16) : u16OfLe (le16 x) = x :=
  le16_inj.mp (le16_u16OfLe (by simp))

@[simp] theorem u32OfLe_le32 (x : UInt32) : u32OfLe (le32 x) = x :=
  le32_inj.mp (le32_u32OfLe (by simp))

@[simp] theorem u64OfLe_le64 (x : UInt64) : u64OfLe (le64 x) = x :=
  le64_inj.mp (le64_u64OfLe (by simp))

/-- A byte string whose width is fixed by its type. -/
structure Bytes (n : ℕ) where
  toList : List UInt8
  length_toList : toList.length = n
  deriving DecidableEq

namespace Bytes
variable {n : ℕ}

attribute [simp] length_toList

@[ext] theorem ext {x y : Bytes n} (h : x.toList = y.toList) : x = y := by
  cases x
  cases y
  simp_all

@[simp] theorem toList_inj {x y : Bytes n} : x.toList = y.toList ↔ x = y :=
  ⟨ext, congrArg toList⟩

@[simp] theorem append_inj {x y : Bytes n} {s t : List UInt8} :
    x.toList ++ s = y.toList ++ t ↔ x = y ∧ s = t := by
  rw [append_cancel (by simp), toList_inj]

/-- The string that repeats one byte. -/
def fill (n : ℕ) (b : UInt8) : Bytes n := ⟨List.replicate n b, by simp⟩

def zero : Bytes n := fill n 0

/-- The string is all zero bytes. -/
def isZero (x : Bytes n) : Bool := x.toList.all (· == 0)

theorem isZero_iff (x : Bytes n) : x.isZero = true ↔ x = zero := by
  constructor
  · intro h
    apply ext
    have ha : ∀ b ∈ x.toList, b = 0 := by simpa [isZero] using h
    exact List.eq_replicate_iff.mpr ⟨x.length_toList, ha⟩
  · rintro rfl
    simp [isZero, zero, fill]

theorem isZero_eq_false_iff (x : Bytes n) : x.isZero = false ↔ x ≠ zero := by
  rw [ne_eq, ← isZero_iff, Bool.not_eq_true]

end Bytes

/-- The bytes at positions `lo` to `hi`, the second bound excluded. -/
def slice (l : List UInt8) (lo hi : ℕ) : List UInt8 := (l.drop lo).take (hi-lo)

theorem length_slice {l : List UInt8} {lo hi : ℕ} (h : hi ≤ l.length) :
    (slice l lo hi).length = hi-lo := by
  simp only [slice, List.length_take, List.length_drop]
  omega

theorem slice_append_right {x y : List UInt8} {lo hi : ℕ} (h : x.length ≤ lo) :
    slice (x ++ y) lo hi = slice y (lo-x.length) (hi-x.length) := by
  rw [slice, slice, List.drop_append, List.drop_eq_nil_of_le h, List.nil_append]
  congr 1
  omega

theorem slice_cons {b : UInt8} {l : List UInt8} {lo hi : ℕ} (h : 1 ≤ lo) :
    slice (b :: l) lo hi = slice l (lo-1) (hi-1) :=
  slice_append_right (x := [b]) h

theorem slice_append_left {x y : List UInt8} {hi : ℕ} (h : x.length = hi) :
    slice (x ++ y) 0 hi = x := by
  simp [slice, ← h]

theorem slice_full {x : List UInt8} {hi : ℕ} (h : x.length = hi) : slice x 0 hi = x := by
  simp [slice, ← h]

theorem slice_append_slice {l : List UInt8} {lo mid hi : ℕ} (h1 : lo ≤ mid) (h2 : mid ≤ hi) :
    slice l lo mid ++ slice l mid hi = slice l lo hi := by
  have hd : l.drop mid = (l.drop lo).drop (mid-lo) := by
    rw [List.drop_drop]
    congr 1
    omega
  rw [slice, slice, slice, hd, show hi-lo = (mid-lo)+(hi-mid) by omega, List.take_add]

theorem slice_slice {l : List UInt8} {a b lo hi : ℕ} (h : a+hi ≤ b) :
    slice (slice l a b) lo hi = slice l (a+lo) (a+hi) := by
  simp only [slice, List.drop_take, List.take_take, List.drop_drop]
  congr 1
  omega

/-- The byte at a position, zero past the end. -/
def byteAt (l : List UInt8) (i : ℕ) : UInt8 := l.getD i 0

lemma byteAt_slice {l : List UInt8} {lo hi i : ℕ} (h : lo+i < hi) :
    byteAt (slice l lo hi) i = byteAt l (lo+i) := by
  have hi' : i < hi-lo := by omega
  simp [byteAt, slice, List.getD_eq_getElem?_getD, hi']

/-- The slice read as a fixed-width string, zero-filled when the source is too short. -/
def bytesAt (n : ℕ) (l : List UInt8) (lo : ℕ) : Bytes n :=
  if h : (slice l lo (lo+n)).length = n then ⟨slice l lo (lo+n), h⟩ else Bytes.zero

theorem toList_bytesAt {n lo : ℕ} {l : List UInt8} (h : lo+n ≤ l.length) :
    (bytesAt n l lo).toList = slice l lo (lo+n) := by
  have hl : (slice l lo (lo+n)).length = n := by rw [length_slice h]; omega
  rw [bytesAt, dif_pos hl]

theorem flatMap_injective {α β : Type*} {f : α → List β} {w : ℕ} (hw : 0 < w)
    (hlen : ∀ a, (f a).length = w) (hf : Function.Injective f) :
    Function.Injective (fun xs : List α => xs.flatMap f) := by
  intro xs
  induction xs with
  | nil =>
    intro ys h
    cases ys with
    | nil => rfl
    | cons y ys =>
      have hh := congrArg List.length h
      simp [hlen] at hh
      omega
  | cons x xs ih =>
    intro ys h
    cases ys with
    | nil =>
      have hh := congrArg List.length h
      simp [hlen] at hh
      omega
    | cons y ys =>
      simp only [List.flatMap_cons] at h
      obtain ⟨hxy, ht⟩ := List.append_inj h (by rw [hlen, hlen])
      rw [hf hxy, ih ht]

theorem flatten_injective {β : Type*} {w : ℕ} (hw : 0 < w) {xs ys : List (List β)}
    (hx : ∀ x ∈ xs, x.length = w) (hy : ∀ y ∈ ys, y.length = w)
    (h : xs.flatten = ys.flatten) : xs = ys := by
  induction xs generalizing ys with
  | nil =>
    cases ys with
    | nil => rfl
    | cons y ys =>
      have hl := hy y (by simp)
      have hh := congrArg List.length h
      simp [hl] at hh
      omega
  | cons x xs ih =>
    cases ys with
    | nil =>
      have hl := hx x (by simp)
      have hh := congrArg List.length h
      simp [hl] at hh
      omega
    | cons y ys =>
      simp only [List.flatten_cons] at h
      obtain ⟨hxy, ht⟩ := List.append_inj h (by rw [hx x (by simp), hy y (by simp)])
      rw [hxy, ih (fun z hz => hx z (by simp [hz])) (fun z hz => hy z (by simp [hz])) ht]

end RgkProtocol.ByteStrings
