import RgkProtocol.Simulation

/-!
# Requests that read, work and write back

A shared state behind a lock serves two kinds of requests. A whole request does all its work in one
critical section. A split request reads the state in a first critical section, works on what it has
read without the lock and writes back in a second one; any number of other critical sections may
run in between. A run is any sequence of critical sections, so all interleavings are covered.

Whole requests keep the property they are meant to keep. A split request keeps it where what it has
read still fits the state that it writes to.
-/
namespace RgkProtocol.SharedRequests
open Simulation
variable {σ ρ ι β γ α : Type*}

/-- What the critical sections do: `σ` is the shared state, `ρ` what a split request has read. -/
structure Server (σ ρ ι β γ α : Type*) where
  whole : σ → ι → α × σ
  read : σ → β → Except α ρ
  writeBack : σ → ρ → γ → α × σ

/-- The shared state and what the split requests under way have read. -/
structure Shared (σ ρ : Type*) where
  state : σ
  reads : List ρ

inductive Turn (ι β γ : Type*) where
  | whole (request : ι)
  | read (request : β)
  | writeBack (index : ℕ) (outcome : γ)

namespace Server
variable (S : Server σ ρ ι β γ α)

/-- One critical section. A split request that has only read gets no answer yet. -/
def step (s : Shared σ ρ) : Turn ι β γ → Option α × Shared σ ρ
  | .whole i => (some (S.whole s.state i).1, ⟨(S.whole s.state i).2, s.reads⟩)
  | .read b =>
    match S.read s.state b with
    | .ok r => (none, ⟨s.state, s.reads ++ [r]⟩)
    | .error a => (some a, s)
  | .writeBack n c =>
    match s.reads[n]? with
    | some r => (some (S.writeBack s.state r c).1,
        ⟨(S.writeBack s.state r c).2, s.reads.eraseIdx n⟩)
    | none => (none, s)

/-- A condition on the split requests that write back. -/
def AtWriteBack (C : σ → ρ → γ → Prop) (s : Shared σ ρ) : Turn ι β γ → Prop
  | .writeBack n c => ∀ r, s.reads[n]? = some r → C s.state r c
  | _ => True

/-- `P` is kept by whole requests, and by split requests where they meet `C`. -/
structure Rules (P : σ → Prop) (C : σ → ρ → γ → Prop) : Prop where
  whole_safe : ∀ s i, P s → P (S.whole s i).2
  writeBack_safe : ∀ s r c, P s → C s r c → P (S.writeBack s r c).2

variable {S} {P : σ → Prop} {C : σ → ρ → γ → Prop}

lemma Rules.step_safe (h : S.Rules P C) (s : Shared σ ρ) (t : Turn ι β γ) (hp : P s.state)
    (hc : AtWriteBack C s t) : P (S.step s t).2.state := by
  cases t with
  | whole i => exact h.whole_safe _ i hp
  | read b => cases hread : S.read s.state b <;> simpa only [step, hread] using hp
  | writeBack n c =>
    cases hn : s.reads[n]? with
    | none => simpa only [step, hn] using hp
    | some r => simpa only [step, hn] using h.writeBack_safe _ r c hp (hc r hn)

/-- In a run whose split requests meet the condition where they write back, the property holds of
every state reached. -/
theorem Rules.run_safe (h : S.Rules P C) {s : Shared σ ρ} (hp : P s.state)
    {turns : List (Turn ι β γ)} (hrun : AlongRun S.step (AtWriteBack C) s turns) :
    ∀ ts, ts <+: turns → P (stateAfter S.step s ts).state :=
  hrun.prefixes (P := fun s => P s.state) h.step_safe hp

/-- Where a write-back that leaves the property has met the condition, all of a run in which the
property holds throughout have. -/
theorem alongRun_of_safe (h : ∀ s r c, P (S.writeBack s r c).2 → C s r c) {s : Shared σ ρ}
    {turns : List (Turn ι β γ)} (hall : ∀ ts, ts <+: turns → P (stateAfter S.step s ts).state) :
    AlongRun S.step (AtWriteBack C) s turns := by
  refine AlongRun.of_prefixes (P := fun s => P s.state) (fun s t _ hnext => ?_) hall
  cases t with
  | whole i => trivial
  | read b => trivial
  | writeBack n c =>
    intro r hn
    simp only [step, hn] at hnext
    exact h _ r c hnext

end Server
end RgkProtocol.SharedRequests
