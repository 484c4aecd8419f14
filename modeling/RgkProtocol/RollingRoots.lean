import Mathlib.Data.List.Forall2
import Mathlib.Data.List.Induction

/-!
# Rolling roots

A root that is extended by one segment after another, each at its position. When an extension can
be undone and never gives a root that a chain starts from, the last root determines the chain: the
comparison runs backwards, and both chains reach their start together.
-/
namespace RgkProtocol.RollingRoots

section Chains
variable {δ σ : Type*} (extend : δ → ℕ → σ → δ)

/-- The root after the segments, the first of which has position `i`. -/
def rootFrom : δ → ℕ → List σ → δ
  | root, _, [] => root
  | root, i, s :: ss => rootFrom (extend root i s) (i+1) ss

/-- What each extension of a chain is computed from. -/
def stepsFrom : δ → ℕ → List σ → List (δ × ℕ × σ)
  | _, _, [] => []
  | root, i, s :: ss => (root, i, s) :: stepsFrom (extend root i s) (i+1) ss

variable {extend}

lemma rootFrom_concat (root : δ) (i : ℕ) (ss : List σ) (s : σ) :
    rootFrom extend root i (ss ++ [s]) = extend (rootFrom extend root i ss) (i + ss.length) s := by
  induction ss generalizing root i with
  | nil => rfl
  | cons t ss ih =>
    rw [List.cons_append, rootFrom, ih, rootFrom, List.length_cons, Nat.add_assoc,
      Nat.add_comm 1]

lemma stepsFrom_concat (root : δ) (i : ℕ) (ss : List σ) (s : σ) :
    stepsFrom extend root i (ss ++ [s]) =
      stepsFrom extend root i ss ++ [(rootFrom extend root i ss, i + ss.length, s)] := by
  induction ss generalizing root i with
  | nil => rfl
  | cons t ss ih =>
    rw [List.cons_append, stepsFrom, ih, stepsFrom, rootFrom, List.cons_append, List.length_cons,
      Nat.add_assoc, Nat.add_comm 1]

end Chains

section Comparison
variable {δ σ : Type*} {extend extend' : δ → ℕ → σ → δ} {R : σ → σ → Prop} {root root' : δ}
  {i i' : ℕ}

theorem related_of_rootFrom_eq {ss ts : List σ}
    (hstep : ∀ x ∈ stepsFrom extend root i ss, ∀ y ∈ stepsFrom extend' root' i' ts,
      extend x.1 x.2.1 x.2.2 = extend' y.1 y.2.1 y.2.2 → x.1 = y.1 ∧ R x.2.2 y.2.2)
    (hleft : ∀ x ∈ stepsFrom extend root i ss, extend x.1 x.2.1 x.2.2 ≠ root')
    (hright : ∀ y ∈ stepsFrom extend' root' i' ts, extend' y.1 y.2.1 y.2.2 ≠ root)
    (h : rootFrom extend root i ss = rootFrom extend' root' i' ts) :
    List.Forall₂ R ss ts ∧ root = root' := by
  induction ss using List.reverseRecOn generalizing ts with
  | nil =>
    cases ts using List.reverseRecOn with
    | nil => exact ⟨.nil, h⟩
    | append_singleton ts t =>
      rw [rootFrom_concat] at h
      rw [stepsFrom_concat] at hright
      exact absurd h.symm (hright _ (List.mem_append_right _ (List.mem_singleton_self _)))
  | append_singleton ss s ih =>
    rw [rootFrom_concat] at h
    rw [stepsFrom_concat] at hstep hleft
    cases ts using List.reverseRecOn with
    | nil => exact absurd h (hleft _ (List.mem_append_right _ (List.mem_singleton_self _)))
    | append_singleton ts t =>
      rw [rootFrom_concat] at h
      rw [stepsFrom_concat] at hstep hright
      obtain ⟨hroot, hR⟩ := hstep _ (List.mem_append_right _ (List.mem_singleton_self _)) _
        (List.mem_append_right _ (List.mem_singleton_self _)) h
      obtain ⟨hrest, hstart⟩ := ih
        (fun x hx y hy => hstep x (List.mem_append_left _ hx) y (List.mem_append_left _ hy))
        (fun x hx => hleft x (List.mem_append_left _ hx))
        (fun y hy => hright y (List.mem_append_left _ hy)) hroot
      exact ⟨List.rel_append hrest (.cons hR .nil), hstart⟩

end Comparison
end RgkProtocol.RollingRoots
