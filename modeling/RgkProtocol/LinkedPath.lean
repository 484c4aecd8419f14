import Mathlib.Data.List.Induction

/-!
# Linked paths and runs

A list of edges links two points when each edge starts where the one before it ended. Paths
grow and shrink at their end, which is how append-only histories and chains of statements use
them. The run rule lifts a property kept by every step to whole runs.
-/
namespace RgkProtocol.LinkedPath

section Paths
variable {α ε : Type*} (src dst : ε → α)

/-- The edges lead from `a` to `b`, each from where the one before ended. -/
def Linked : α → List ε → α → Prop
  | a, [], b => a = b
  | a, e :: es, b => src e = a ∧ Linked (dst e) es b

variable {src dst}

lemma linked_append {a b : α} {xs ys : List ε} :
    Linked src dst a (xs ++ ys) b ↔ ∃ c, Linked src dst a xs c ∧ Linked src dst c ys b := by
  induction xs generalizing a with
  | nil => simp [Linked]
  | cons x xs ih => simp only [List.cons_append, Linked, ih, and_assoc, exists_and_left]

lemma linked_concat {a b : α} {es : List ε} {e : ε} :
    Linked src dst a (es ++ [e]) b ↔ Linked src dst a es (src e) ∧ dst e = b := by
  rw [linked_append]
  constructor
  · rintro ⟨c, hc, hs, hd⟩
    exact ⟨hs ▸ hc, hd⟩
  · rintro ⟨hc, hd⟩
    exact ⟨src e, hc, rfl, hd⟩

lemma linked_of_ends_eq {a b : α} {xs ys : List ε}
    (h : xs.map (fun e => (src e, dst e)) = ys.map (fun e => (src e, dst e)))
    (hx : Linked src dst a xs b) : Linked src dst a ys b := by
  induction xs generalizing a ys with
  | nil =>
    cases ys with
    | nil => exact hx
    | cons y ys => cases h
  | cons x xs ih =>
    cases ys with
    | nil => cases h
    | cons y ys =>
      simp only [List.map_cons, List.cons.injEq, Prod.mk.injEq] at h
      obtain ⟨⟨hs, hd⟩, ht⟩ := h
      exact ⟨hs.symm.trans hx.1, ih ht (hd ▸ hx.2)⟩

lemma Linked.isChain {a b : α} {es : List ε} (h : Linked src dst a es b) :
    es.IsChain (fun e f => dst e = src f) := by
  induction es generalizing a with
  | nil => exact .nil
  | cons e es ih =>
    cases es with
    | nil => exact .singleton _
    | cons f es => exact List.isChain_cons_cons.mpr ⟨h.2.1.symm, ih h.2⟩

lemma Linked.getLast {a b : α} {es : List ε} {e : ε} (h : Linked src dst a es b)
    (he : es.getLast? = some e) : dst e = b := by
  obtain ⟨init, rfl⟩ := List.getLast?_eq_some_iff.mp he
  exact (linked_concat.mp h).2

lemma Linked.unique {a b c : α} {es : List ε} (hb : Linked src dst a es b)
    (hc : Linked src dst a es c) : b = c := by
  induction es generalizing a with
  | nil => exact hb.symm.trans hc
  | cons e es ih => exact ih hb.2 hc.2

lemma linked_map_edges {φ : Type*} (g : φ → ε) {a b : α} {es : List φ} :
    Linked src dst a (es.map g) b ↔ Linked (fun e => src (g e)) (fun e => dst (g e)) a es b := by
  induction es generalizing a with
  | nil => rfl
  | cons e es ih => simp only [List.map_cons, Linked, ih]

lemma linked_map {β : Type*} (f : α → β) {a b : α} {es : List ε} (h : Linked src dst a es b) :
    Linked (fun e => f (src e)) (fun e => f (dst e)) (f a) es (f b) := by
  induction es generalizing a with
  | nil => exact congrArg f h
  | cons e es ih => exact ⟨congrArg f h.1, ih h.2⟩

lemma linked_filter_moves [DecidableEq α] {a b : α} {es : List ε} (h : Linked src dst a es b) :
    Linked src dst a (es.filter (fun e => src e ≠ dst e)) b := by
  induction es generalizing a with
  | nil => exact h
  | cons e es ih =>
    obtain ⟨hs, ht⟩ := h
    rw [List.filter_cons]
    split_ifs with hmove
    · exact ⟨hs, ih ht⟩
    · have hstay : src e = dst e := by simpa using hmove
      rw [← hs, hstay]
      exact ih ht

end Paths

section Runs
variable {ω : Type*}

/-- Every step of a run meets a condition on the steps before it. -/
def EveryStep (C : List ω → ω → Prop) (ops : List ω) : Prop :=
  ∀ pre o post, ops = pre ++ o :: post → C pre o

lemma everyStep_nil (C : List ω → ω → Prop) : EveryStep C [] := by
  intro pre o post h
  simp at h

lemma everyStep_cons {C : List ω → ω → Prop} {o : ω} {ops : List ω} (h0 : C [] o)
    (h : EveryStep (fun pre => C (o :: pre)) ops) : EveryStep C (o :: ops) := by
  intro pre p post he
  cases pre with
  | nil =>
    obtain ⟨rfl, -⟩ := List.cons.inj he
    exact h0
  | cons q pre =>
    obtain ⟨rfl, hops⟩ := List.cons.inj he
    exact h pre p post hops

lemma everyStep_concat {C : List ω → ω → Prop} {o : ω} {ops : List ω}
    (h : EveryStep C (ops ++ [o])) : EveryStep C ops ∧ C ops o := by
  constructor
  · intro pre p post he
    exact h pre p (post ++ [o]) (by rw [he, List.append_assoc, List.cons_append])
  · exact h ops o [] rfl

theorem run_invariant {P : List ω → Prop} {C : List ω → ω → Prop} (h0 : P [])
    (hstep : ∀ pre o, P pre → C pre o → P (pre ++ [o])) (ops : List ω) (hc : EveryStep C ops) :
    P ops := by
  induction ops using List.reverseRecOn with
  | nil => exact h0
  | append_singleton pre o ih =>
    obtain ⟨hpre, ho⟩ := everyStep_concat hc
    exact hstep pre o (ih hpre) ho

end Runs
end RgkProtocol.LinkedPath
