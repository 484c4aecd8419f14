import RgkProtocol.ByteStrings
import Mathlib.Data.ZMod.Basic
import Mathlib.Algebra.BigOperators.Group.List.Basic

/-!
# Bytes and words in a prime field

Little-endian words as elements of `ZMod q`, byte strings packed into words chunk by chunk,
and sums of words. All results say where reduction modulo `q` loses nothing.
-/
namespace RgkProtocol.FieldPacking
open ByteStrings

section Words
variable {q : ℕ}

lemma natCast_inj_of_lt {a b : ℕ} (ha : a < q) (hb : b < q) :
    (a : ZMod q) = (b : ZMod q) ↔ a = b := by
  rw [ZMod.natCast_eq_natCast_iff', Nat.mod_eq_of_lt ha, Nat.mod_eq_of_lt hb]

/-- A little-endian word as a field element. -/
def leField (q : ℕ) (bytes : List UInt8) : ZMod q := (leNat bytes : ZMod q)

lemma leField_injective {xs ys : List UInt8} (hlen : xs.length = ys.length)
    (hq : 256^xs.length ≤ q) (h : leField q xs = leField q ys) : xs = ys := by
  have hx : leNat xs < q := (leNat_lt xs).trans_le hq
  have hy : leNat ys < q := (leNat_lt ys).trans_le (hlen ▸ hq)
  exact leNat_injective hlen ((natCast_inj_of_lt hx hy).mp h)

end Words

section Chunks
variable {α : Type*}

/-- The first `n` chunks of width `w`. -/
def chunks (w : ℕ) : ℕ → List α → List (List α)
  | 0, _ => []
  | n+1, l => l.take w :: chunks w n (l.drop w)

lemma eq_of_map_chunks_eq {β : Type*} {f : List α → β} {w : ℕ}
    (hf : ∀ x y : List α, x.length = y.length → x.length ≤ w → f x = f y → x = y) {n : ℕ}
    {l m : List α} (hlen : l.length = m.length) (hn : l.length ≤ w*n)
    (h : (chunks w n l).map f = (chunks w n m).map f) : l = m := by
  induction n generalizing l m with
  | zero =>
    have hl : l = [] := List.eq_nil_of_length_eq_zero (by omega)
    have hm : m = [] := List.eq_nil_of_length_eq_zero (by omega)
    rw [hl, hm]
  | succ n ih =>
    simp only [chunks, List.map_cons, List.cons.injEq] at h
    have htake : l.take w = m.take w := by
      refine hf _ _ ?_ ?_ h.1
      · simp [hlen]
      · simp
    have hdrop : l.drop w = m.drop w := by
      refine ih ?_ ?_ h.2
      · simp [hlen]
      · rw [List.length_drop]
        have hw : w*(n+1) = w*n + w := by ring
        omega
    rw [← List.take_append_drop w l, ← List.take_append_drop w m, htake, hdrop]

lemma drop_chunks (w n k : ℕ) (l : List α) :
    (chunks w n l).drop k = chunks w (n-k) (l.drop (w*k)) := by
  induction k generalizing n l with
  | zero => simp
  | succ k ih =>
    cases n with
    | zero => simp [chunks]
    | succ n =>
      rw [chunks, List.drop_succ_cons, ih, List.drop_drop, Nat.add_sub_add_right,
        show w + w*k = w*(k+1) by ring]

lemma take_chunks {w n m : ℕ} (h : m ≤ n) (l : List α) :
    (chunks w n l).take m = chunks w m (l.take (w*m)) := by
  induction m generalizing n l with
  | zero => simp [chunks]
  | succ m ih =>
    obtain ⟨n, rfl⟩ := Nat.exists_eq_add_of_le' h
    rw [← Nat.add_assoc, chunks, List.take_succ_cons, ih (by omega), chunks, List.take_take,
      List.drop_take, show w*(m+1) - w = w*m by rw [Nat.mul_succ]; omega,
      Nat.min_eq_left (Nat.le_mul_of_pos_right w (Nat.succ_pos m))]
end Chunks

section Packing
variable {q : ℕ}

/-- A byte string packed eight bytes to a field element, the last chunk possibly short. -/
def packBytes (q : ℕ) (bytes : List UInt8) : List (ZMod q) :=
  (chunks 8 ((bytes.length+7)/8) bytes).map (leField q)

lemma packBytes_injective (hq : 256^8 ≤ q) {xs ys : List UInt8} (hlen : xs.length = ys.length)
    (h : packBytes q xs = packBytes q ys) : xs = ys := by
  unfold packBytes at h
  rw [← hlen] at h
  refine eq_of_map_chunks_eq ?_ hlen (by omega) h
  intro x y hxy hx hfx
  refine leField_injective hxy ?_ hfx
  exact (Nat.pow_le_pow_right (by norm_num) hx).trans hq

lemma packBytes_window {p : List UInt8} {k m : ℕ} (h : 8*(k+m) ≤ p.length) :
    ((packBytes q p).drop k).take m = packBytes q (slice p (8*k) (8*(k+m))) := by
  have hlen : (slice p (8*k) (8*(k+m))).length = 8*m := by
    rw [length_slice h]
    omega
  rw [packBytes, packBytes, hlen, ← List.map_drop, ← List.map_take, drop_chunks,
    take_chunks (by omega), show (8*m+7)/8 = m by omega, slice, show 8*(k+m) - 8*k = 8*m by omega]

end Packing

section Sums
variable {q : ℕ} {α : Type*}

/-- The sum of words, first word first. -/
def sumField (word : α → ZMod q) : List α → ZMod q
  | [] => 0
  | a :: l => l.foldl (fun total b => total + word b) (word a)

lemma foldl_add_natCast {word : α → ZMod q} {value : α → ℕ} (hw : ∀ a, word a = (value a : ZMod q))
    (l : List α) (n : ℕ) :
    l.foldl (fun total b => total + word b) (n : ZMod q) =
      ((n + (l.map value).sum : ℕ) : ZMod q) := by
  induction l generalizing n with
  | nil => simp
  | cons a l ih =>
    rw [List.foldl_cons, hw, ← Nat.cast_add, ih, List.map_cons, List.sum_cons, Nat.add_assoc]

lemma sumField_eq_natCast {word : α → ZMod q} {value : α → ℕ}
    (hw : ∀ a, word a = (value a : ZMod q)) (l : List α) :
    sumField word l = ((l.map value).sum : ℕ) := by
  cases l with
  | nil => simp [sumField]
  | cons a l =>
    rw [sumField, hw, foldl_add_natCast hw, List.map_cons, List.sum_cons]

lemma sumField_eq_iff {word : α → ZMod q} {value : α → ℕ} {bound : ℕ}
    (hw : ∀ a, word a = (value a : ZMod q)) (hb : ∀ a, value a ≤ bound) {l : List α}
    (hl : l.length*bound < q) {n : ℕ} (hn : n < q) :
    sumField word l = (n : ZMod q) ↔ (l.map value).sum = n := by
  have hsum : (l.map value).sum ≤ l.length*bound := by
    have hle := List.sum_le_card_nsmul (l.map value) bound (by simpa using fun a _ => hb a)
    simpa using hle
  rw [sumField_eq_natCast hw, natCast_inj_of_lt (lt_of_le_of_lt hsum hl) hn]

end Sums
end RgkProtocol.FieldPacking
