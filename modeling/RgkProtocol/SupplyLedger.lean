import Mathlib.Algebra.BigOperators.Group.Multiset.Basic

/-!
# Ledgers that conserve a total

What an asset lineage is for, in its own terms: a multiset of live items with weights, and
the weight burned so far. The two always add up to the total fixed at genesis, because a
ledger that does not balance cannot be built.
-/
namespace RgkProtocol.SupplyLedger
variable {α : Type*} {w : α → ℕ} {total : ℕ}

structure Ledger (w : α → ℕ) (total : ℕ) where
  live : Multiset α
  burned : ℕ
  conserved : (live.map w).sum + burned = total

namespace Ledger

/-- All of the total is live and nothing is burned. -/
def genesis (live : Multiset α) (h : (live.map w).sum = total) : Ledger w total :=
  ⟨live, 0, h⟩

/-- Consume every live item, create new ones, and burn the difference. -/
def replace (L : Ledger w total) (new : Multiset α) (burn : ℕ)
    (h : (L.live.map w).sum = (new.map w).sum + burn) : Ledger w total where
  live := new
  burned := L.burned + burn
  conserved := by
    have hc := L.conserved
    omega

@[simp] lemma live_genesis (live : Multiset α) (h : (live.map w).sum = total) :
    (genesis live h).live = live := rfl

@[simp] lemma burned_genesis (live : Multiset α) (h : (live.map w).sum = total) :
    (genesis live h).burned = 0 := rfl

@[simp] lemma live_replace (L : Ledger w total) (new : Multiset α) (burn : ℕ)
    (h : (L.live.map w).sum = (new.map w).sum + burn) : (L.replace new burn h).live = new := rfl

@[simp] lemma burned_replace (L : Ledger w total) (new : Multiset α) (burn : ℕ)
    (h : (L.live.map w).sum = (new.map w).sum + burn) :
    (L.replace new burn h).burned = L.burned + burn := rfl

end Ledger
end RgkProtocol.SupplyLedger
