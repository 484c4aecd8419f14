import Mathlib.Algebra.BigOperators.Group.List.Basic
import Mathlib.Tactic.Ring

/-!
# Lists in segments of fixed width

A list of width `m*n` is determined by its `m` segments of width `n`, and lists of width `n` laid
end to end are found again at their positions.
-/
namespace RgkProtocol.Segments
variable {α β : Type*} {n : ℕ}

/-- The segment of width `n` at position `i`. -/
def segmentAt (n : ℕ) (l : List α) (i : ℕ) : List α := (l.drop (n*i)).take n

lemma segmentAt_zero (l : List α) : segmentAt n l 0 = l.take n := by
  simp [segmentAt]

lemma segmentAt_succ (l : List α) (i : ℕ) : segmentAt n l (i+1) = segmentAt n (l.drop n) i := by
  rw [segmentAt, segmentAt, List.drop_drop, show n*(i+1) = n+n*i by ring]

lemma eq_of_segmentAt_eq {m : ℕ} {l k : List α} (hl : l.length = m*n) (hk : k.length = m*n)
    (h : ∀ i < m, segmentAt n l i = segmentAt n k i) : l = k := by
  induction m generalizing l k with
  | zero =>
    rw [Nat.zero_mul, List.length_eq_zero_iff] at hl hk
    rw [hl, hk]
  | succ m ih =>
    rw [Nat.succ_mul] at hl hk
    have htake : l.take n = k.take n := by
      have h0 := h 0 (by omega)
      rwa [segmentAt_zero, segmentAt_zero] at h0
    have hdrop : l.drop n = k.drop n := by
      refine ih ?_ ?_ fun i hi => ?_
      · rw [List.length_drop, hl, Nat.add_sub_cancel]
      · rw [List.length_drop, hk, Nat.add_sub_cancel]
      · rw [← segmentAt_succ, ← segmentAt_succ]
        exact h (i+1) (by omega)
    rw [← List.take_append_drop n l, ← List.take_append_drop n k, htake, hdrop]

/-- Each piece of a concatenation stands at the position that its index says, counted from the
index of the first. -/
lemma segmentAt_flatMap {f : β → List α} {index : β → ℕ} {bs : List β}
    (hf : ∀ b ∈ bs, (f b).length = n) {k : ℕ} (hindex : bs.map index = List.range' k bs.length) :
    ∀ b ∈ bs, segmentAt n (bs.flatMap f) (index b - k) = f b := by
  induction bs generalizing k with
  | nil => simp
  | cons a bs ih =>
    obtain ⟨ha, hbs⟩ := List.forall_mem_cons.mp hf
    rw [List.map_cons, List.length_cons, List.range'_succ, List.cons.injEq] at hindex
    obtain ⟨hk, hrest⟩ := hindex
    intro b hb
    rw [List.flatMap_cons]
    rcases List.mem_cons.mp hb with hb | hb
    · rw [hb, hk, Nat.sub_self, segmentAt_zero, ← ha, List.take_left]
    · have hle : k+1 ≤ index b := by
        have hmem : index b ∈ List.range' (k+1) bs.length :=
          hrest ▸ List.mem_map_of_mem hb
        exact (List.mem_range'_1.mp hmem).1
      have hsub : index b - k = (index b - (k+1)) + 1 := by omega
      have hdrop : (f a ++ bs.flatMap f).drop n = bs.flatMap f := by
        rw [← ha, List.drop_left]
      rw [hsub, segmentAt_succ, hdrop]
      exact ih hbs hrest b hb

lemma length_flatMap_of_forall {f : β → List α} {bs : List β}
    (hf : ∀ b ∈ bs, (f b).length = n) : (bs.flatMap f).length = bs.length*n := by
  induction bs with
  | nil => simp
  | cons a bs ih =>
    obtain ⟨ha, hbs⟩ := List.forall_mem_cons.mp hf
    rw [List.flatMap_cons, List.length_append, ha, ih hbs, List.length_cons]
    ring

lemma length_segmentAt {m i : ℕ} {l : List α} (hl : l.length = m*n) (hi : i < m) :
    (segmentAt n l i).length = n := by
  have hle : n*(i+1) ≤ n*m := Nat.mul_le_mul_left n hi
  have hring : n*(i+1) = n*i + n := by ring
  have hcomm : m*n = n*m := Nat.mul_comm m n
  rw [segmentAt, List.length_take, List.length_drop, hl]
  omega

lemma flatMap_segmentAt {m : ℕ} {l : List α} (hl : l.length = m*n) :
    (List.range m).flatMap (segmentAt n l) = l := by
  induction m generalizing l with
  | zero =>
    rw [Nat.zero_mul, List.length_eq_zero_iff] at hl
    simp [hl]
  | succ m ih =>
    rw [Nat.succ_mul] at hl
    have hdrop : (l.drop n).length = m*n := by rw [List.length_drop, hl, Nat.add_sub_cancel]
    have hrest : (List.range m).flatMap (fun i => segmentAt n l (i+1)) = l.drop n := by
      simp only [segmentAt_succ]
      exact ih hdrop
    rw [List.range_succ_eq_map, List.flatMap_cons, List.flatMap_map, segmentAt_zero]
    exact (congrArg _ hrest).trans (List.take_append_drop n l)

lemma mem_of_mem_segmentAt {i : ℕ} {l : List α} {a : α} (h : a ∈ segmentAt n l i) : a ∈ l :=
  List.mem_of_mem_drop (List.mem_of_mem_take h)

lemma sum_map_flatMap (f : β → List α) (value : α → ℕ) (bs : List β) :
    ((bs.flatMap f).map value).sum = (bs.map (fun b => ((f b).map value).sum)).sum := by
  induction bs with
  | nil => simp
  | cons a bs ih => rw [List.flatMap_cons, List.map_append, List.sum_append, ih, List.map_cons,
      List.sum_cons]

end RgkProtocol.Segments
