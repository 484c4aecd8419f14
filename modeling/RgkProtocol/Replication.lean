import Mathlib.Data.List.Basic

/-!
# Replicas of an ordered log

A replica takes messages that arrive lost, doubled and out of order. Each message of the log moves a
replica that stands at the message's own place, and leaves any other. Then a replica is always at
some place of the log, never goes back, and is at the end once the log has come through in order,
whatever came in between.
-/
namespace RgkProtocol.Replication
variable {σ τ μ δ : Type*}

section Places
variable [DecidableEq μ]

/-- The place of a replica after some deliveries: a message counts if it is the next of the log. -/
def receivedFrom (log : List μ) (k : ℕ) (delivered : List μ) : ℕ :=
  delivered.foldl (fun k m => if log[k]? = some m then k+1 else k) k

lemma receivedFrom_cons (log : List μ) (k : ℕ) (m : μ) (delivered : List μ) :
    receivedFrom log k (m :: delivered) =
      receivedFrom log (if log[k]? = some m then k+1 else k) delivered := rfl

/-- What came through in order was counted to its end. -/
theorem receivedFrom_of_sublist {log : List μ} {k : ℕ} (hk : k ≤ log.length) {delivered : List μ}
    (h : (log.drop k).Sublist delivered) : receivedFrom log k delivered = log.length := by
  induction delivered generalizing k with
  | nil =>
    have hlen := congrArg List.length (List.sublist_nil.mp h)
    rw [List.length_drop, List.length_nil] at hlen
    change k = log.length
    omega
  | cons m delivered ih =>
    rw [receivedFrom_cons]
    split_ifs with hnext
    · obtain ⟨hlt, hm⟩ := List.getElem?_eq_some_iff.mp hnext
      rw [List.drop_eq_getElem_cons hlt, hm] at h
      exact ih hlt (List.cons_sublist_cons.mp h)
    · refine ih hk ?_
      rcases List.sublist_cons_iff.mp h with h | ⟨rest, hrest, -⟩
      · exact h
      · -- The next message of the log would be this one.
        have hhead := congrArg List.head? hrest
        rw [List.head?_drop, List.head?_cons] at hhead
        exact absurd hhead hnext

end Places

section Replicas

/-- A message moves the replica that stands at its own place of the log, and no other. `view` is
what the log is about; the replica may hold more, a delivery may carry more than its message, and
there may be deliveries that `Arrives` allows besides those of the log. -/
structure Tracks (step : σ → δ → σ) (view : σ → τ) (message : δ → μ) (log : List μ) (states : ℕ → τ)
    (Arrives : δ → Prop) : Prop where
  moves : ∀ s k d, view s = states k → Arrives d → log[k]? = some (message d) →
    view (step s d) = states (k+1)
  stays : ∀ s k d, view s = states k → Arrives d → log[k]? ≠ some (message d) →
    view (step s d) = states k

variable [DecidableEq μ] {step : σ → δ → σ} {view : σ → τ} {message : δ → μ} {log : List μ}
variable {states : ℕ → τ} {Arrives : δ → Prop}

theorem Tracks.delivered (h : Tracks step view message log states Arrives) {s : σ} {k : ℕ}
    (hs : view s = states k) {delivered : List δ} (hmem : ∀ d ∈ delivered, Arrives d) :
    view (delivered.foldl step s) = states (receivedFrom log k (delivered.map message)) := by
  induction delivered generalizing s k with
  | nil => exact hs
  | cons d delivered ih =>
    obtain ⟨hd, hrest⟩ := List.forall_mem_cons.mp hmem
    rw [List.map_cons, receivedFrom_cons, List.foldl_cons]
    split_ifs with hnext
    · exact ih (h.moves s k d hs hd hnext) hrest
    · exact ih (h.stays s k d hs hd hnext) hrest

end Replicas
end RgkProtocol.Replication
