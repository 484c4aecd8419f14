import Mathlib.Data.List.Basic

/-!
# Machines that answer

A machine takes one input at a time, answers it and moves on to its next state. Two machines
related by a relation that every step keeps, with the same answer on both sides, cannot be told
apart by any sequence of inputs.
-/
namespace RgkProtocol.Simulation
variable {σ τ ι α : Type*}

section Runs
variable (step : σ → ι → α × σ)

/-- What the machine answers, input by input. -/
def answersOf : σ → List ι → List α
  | _, [] => []
  | s, i :: is => (step s i).1 :: answersOf (step s i).2 is

/-- The state after a sequence of inputs. -/
def stateAfter (s : σ) (is : List ι) : σ := is.foldl (fun s i => (step s i).2) s

/-- Every step of the run meets a condition on its state and input. -/
def AlongRun (C : σ → ι → Prop) : σ → List ι → Prop
  | _, [] => True
  | s, i :: is => C s i ∧ AlongRun C (step s i).2 is

variable {step}

@[simp] lemma stateAfter_nil (s : σ) : stateAfter step s [] = s := rfl

@[simp] lemma stateAfter_cons (s : σ) (i : ι) (is : List ι) :
    stateAfter step s (i :: is) = stateAfter step (step s i).2 is := rfl

lemma stateAfter_append (s : σ) (is js : List ι) :
    stateAfter step s (is ++ js) = stateAfter step (stateAfter step s is) js :=
  List.foldl_append

lemma AlongRun.imp {C D : σ → ι → Prop} {s : σ} {is : List ι} (h : ∀ s, ∀ i ∈ is, C s i → D s i)
    (hrun : AlongRun step C s is) : AlongRun step D s is := by
  induction is generalizing s with
  | nil => trivial
  | cons i is ih =>
    exact ⟨h s i List.mem_cons_self hrun.1,
      ih (fun s j hj => h s j (List.mem_cons_of_mem i hj)) hrun.2⟩

lemma AlongRun.invariant {C : σ → ι → Prop} {P : σ → Prop}
    (hstep : ∀ s i, P s → C s i → P (step s i).2) {s : σ} {is : List ι} (hs : P s)
    (hrun : AlongRun step C s is) : P (stateAfter step s is) := by
  induction is generalizing s with
  | nil => exact hs
  | cons i is ih => exact ih (hstep s i hs hrun.1) hrun.2

lemma AlongRun.last {C : σ → ι → Prop} {s : σ} {is : List ι} {i : ι}
    (hrun : AlongRun step C s (is ++ [i])) : C (stateAfter step s is) i := by
  induction is generalizing s with
  | nil => exact hrun.1
  | cons j is ih => exact ih hrun.2

lemma AlongRun.of_invariant {C : σ → ι → Prop} {P : σ → Prop} (hstep : ∀ s i, P s → P (step s i).2)
    (hC : ∀ s i, P s → C s i) {s : σ} (hs : P s) (is : List ι) : AlongRun step C s is := by
  induction is generalizing s with
  | nil => trivial
  | cons i is ih => exact ⟨hC s i hs, ih (hstep s i hs)⟩

lemma AlongRun.and {C D : σ → ι → Prop} {s : σ} {is : List ι} (hC : AlongRun step C s is)
    (hD : AlongRun step D s is) : AlongRun step (fun s i => C s i ∧ D s i) s is := by
  induction is generalizing s with
  | nil => trivial
  | cons i is ih => exact ⟨⟨hC.1, hD.1⟩, ih hC.2 hD.2⟩

/-- A property kept by every step that meets its condition holds all along the run. -/
lemma AlongRun.prefixes {C : σ → ι → Prop} {P : σ → Prop}
    (hstep : ∀ s i, P s → C s i → P (step s i).2) {s : σ} {is : List ι} (hs : P s)
    (hrun : AlongRun step C s is) (js : List ι) (hjs : js <+: is) : P (stateAfter step s js) := by
  induction is generalizing s js with
  | nil => rwa [List.prefix_nil.mp hjs]
  | cons i is ih =>
    cases js with
    | nil => exact hs
    | cons j js =>
      obtain ⟨rfl, htail⟩ := List.cons_prefix_cons.mp hjs
      exact ih (hstep s j hs hrun.1) hrun.2 js htail

lemma AlongRun.of_prefixes {C : σ → ι → Prop} {P : σ → Prop}
    (hstep : ∀ s i, P s → P (step s i).2 → C s i) {s : σ} {is : List ι}
    (hall : ∀ js, js <+: is → P (stateAfter step s js)) : AlongRun step C s is := by
  induction is generalizing s with
  | nil => trivial
  | cons i is ih =>
    refine ⟨hstep s i (hall [] List.nil_prefix) (hall [i] (List.prefix_append [i] is)), ih ?_⟩
    intro js hjs
    exact hall (i :: js) (List.cons_prefix_cons.mpr ⟨rfl, hjs⟩)

/-- Where a step keeps a property exactly when it meets its condition, the property holds all along
a run exactly when all its steps meet theirs. -/
lemma alongRun_iff_prefixes {A C : σ → ι → Prop} {I P : σ → Prop}
    (hI : ∀ s i, I s → A s i → I (step s i).2)
    (hP : ∀ s i, I s → A s i → P s → (P (step s i).2 ↔ C s i)) {s : σ} {is : List ι}
    (hs : I s) (hps : P s) (hrun : AlongRun step A s is) :
    (∀ js, js <+: is → P (stateAfter step s js)) ↔ AlongRun step C s is := by
  constructor
  · intro hall
    have hcond : AlongRun step (fun s i => A s i → C s i) s is :=
      AlongRun.of_prefixes (P := fun s => I s ∧ P s)
        (fun s i h hnext ha => (hP s i h.1 ha h.2).mp hnext.2)
        (fun js hjs => ⟨hrun.prefixes hI hs js hjs, hall js hjs⟩)
    exact (hrun.and hcond).imp (fun _ _ _ h => h.2 h.1)
  · intro hcond js hjs
    exact ((hrun.and hcond).prefixes (P := fun s => I s ∧ P s)
      (fun s i h hc => ⟨hI s i h.1 hc.1, (hP s i h.1 hc.1 h.2).mpr hc.2⟩) ⟨hs, hps⟩ js hjs).2

end Runs

/-- Related machines answer alike and stay related. -/
theorem simulation {step : σ → ι → α × σ} {step' : τ → ι → α × τ} {R : σ → τ → Prop}
    {C : σ → ι → Prop}
    (hstep : ∀ s t i, R s t → C s i →
      (step s i).1 = (step' t i).1 ∧ R (step s i).2 (step' t i).2)
    {s : σ} {t : τ} {is : List ι} (hst : R s t) (hrun : AlongRun step C s is) :
    answersOf step s is = answersOf step' t is ∧
      R (stateAfter step s is) (stateAfter step' t is) := by
  induction is generalizing s t with
  | nil => exact ⟨rfl, hst⟩
  | cons i is ih =>
    obtain ⟨hanswer, hrel⟩ := hstep s t i hst hrun.1
    obtain ⟨hanswers, hafter⟩ := ih hrel hrun.2
    exact ⟨by rw [answersOf, answersOf, hanswer, hanswers], hafter⟩

end RgkProtocol.Simulation
