import RgkProtocol.ByteStrings
import Mathlib.Data.List.Nodup
import Mathlib.Algebra.BigOperators.Group.List.Basic
import Mathlib.Data.List.Sort

/-!
# Fallible computations, checked sums and keyed sorting

The parts of a checking validator that do not depend on what it checks: guards that fail
with an error, the indexed loop that stops at its first failing element, the running sum
with an overflow check, and the stable sort by a key.
-/
namespace RgkProtocol.Checked

section Results
variable {ε α β : Type}

/-- A guard that fails with `e` when `p` holds. -/
def failIf (p : Prop) [Decidable p] (e : ε) : Except ε Unit := if p then .error e else .ok ()

def okOr (x : Option α) (e : ε) : Except ε α :=
  match x with
  | some a => .ok a
  | none => .error e

@[simp] lemma failIf_eq_ok {p : Prop} [Decidable p] {e : ε} {u : Unit} :
    failIf p e = .ok u ↔ ¬p := by
  unfold failIf
  split <;> simp_all

@[simp] lemma okOr_eq_ok {x : Option α} {e : ε} {a : α} : okOr x e = .ok a ↔ x = some a := by
  cases x <;> simp [okOr]

/-- Run a check on an optional value when there is one. -/
def whenSome (x : Option α) (check : α → Except ε Unit) : Except ε Unit :=
  match x with
  | some a => check a
  | none => .ok ()

lemma whenSome_eq_ok {x : Option α} {check : α → Except ε Unit} :
    whenSome x check = .ok () ↔ ∀ a, x = some a → check a = .ok () := by
  cases x <;> simp [whenSome]

lemma bind_eq_ok {x : Except ε α} {f : α → Except ε β} {b : β} :
    (x >>= f) = .ok b ↔ ∃ a, x = .ok a ∧ f a = .ok b := by
  cases x <;> simp [bind, Except.bind]

lemma unit_bind_eq_ok {x : Except ε Unit} {f : Unit → Except ε β} {b : β} :
    (x >>= f) = .ok b ↔ x = .ok () ∧ f () = .ok b := by
  rw [bind_eq_ok]
  constructor
  · rintro ⟨⟨⟩, hx, hf⟩
    exact ⟨hx, hf⟩
  · rintro ⟨hx, hf⟩
    exact ⟨(), hx, hf⟩

lemma mapError_eq_ok {ε' : Type} {f : ε → ε'} {x : Except ε α} {a : α} :
    x.mapError f = .ok a ↔ x = .ok a := by
  cases x <;> simp [Except.mapError]

/-- Apply a fallible function to each element in turn. -/
def mapEach (f : α → Except ε β) : List α → Except ε (List β)
  | [] => .ok []
  | a :: l => do
      let b ← f a
      let bs ← mapEach f l
      .ok (b :: bs)

lemma mapEach_eq_ok {f : α → Except ε β} {l : List α} {bs : List β} :
    mapEach f l = .ok bs ↔ List.Forall₂ (fun a b => f a = .ok b) l bs := by
  induction l generalizing bs with
  | nil => simp [mapEach, eq_comm]
  | cons a l ih =>
    simp only [mapEach, bind_eq_ok, Except.ok.injEq, ih]
    constructor
    · rintro ⟨b, hb, cs, hcs, rfl⟩
      exact .cons hb hcs
    · intro h
      cases h with
      | cons hb hcs => exact ⟨_, hb, _, hcs, rfl⟩

lemma mapEach_ok {f : α → Except ε β} {l : List α}
    (h : ∀ a ∈ l, ∃ b, f a = .ok b) : ∃ bs, mapEach f l = .ok bs := by
  induction l with
  | nil => exact ⟨[], rfl⟩
  | cons a l ih =>
    obtain ⟨⟨b, hb⟩, hl⟩ := List.forall_mem_cons.mp h
    obtain ⟨bs, hbs⟩ := ih hl
    exact ⟨b :: bs, bind_eq_ok.mpr ⟨b, hb, bind_eq_ok.mpr ⟨bs, hbs, rfl⟩⟩⟩

lemma exists_ok_of_isSome {x : Except ε α} (h : x.toOption.isSome = true) : ∃ a, x = .ok a := by
  cases x with
  | error e => cases h
  | ok a => exact ⟨a, rfl⟩

end Results

section Sums

/-- Addition of 64-bit words that reports overflow. -/
def checkedAdd (a b : UInt64) : Option UInt64 :=
  if a.toNat + b.toNat < 2^64 then some (a+b) else none

lemma checkedAdd_eq_some {a b c : UInt64} :
    checkedAdd a b = some c ↔ c.toNat = a.toNat + b.toNat := by
  unfold checkedAdd
  split
  · rename_i h
    have hs : (a+b).toNat = a.toNat + b.toNat := by
      rw [UInt64.toNat_add]
      exact Nat.mod_eq_of_lt h
    rw [Option.some.injEq, ← UInt64.toNat_inj, hs]
    exact eq_comm
  · rename_i h
    have hc := c.toNat_lt
    constructor
    · intro hn
      cases hn
    · intro hn
      omega

end Sums

section Loops
variable {ε α : Type}

/-- Run a check on each element in turn, with the element's index for its error. -/
def forEnum (check : ℕ → α → Except ε Unit) : ℕ → List α → Except ε Unit
  | _, [] => .ok ()
  | i, a :: l => do
      check i a
      forEnum check (i+1) l

lemma forEnum_eq_ok {check : ℕ → α → Except ε Unit} {P : α → Prop}
    (hc : ∀ i a, check i a = .ok () ↔ P a) (i : ℕ) (l : List α) :
    forEnum check i l = .ok () ↔ ∀ a ∈ l, P a := by
  induction l generalizing i with
  | nil => simp [forEnum]
  | cons a l ih => simp only [forEnum, unit_bind_eq_ok, hc, ih, List.forall_mem_cons]

variable {κ : Type*} [DecidableEq κ]

/-- One pass that checks every element, rejects a repeated key, and sums the amounts with an
overflow check. -/
def sumDistinct (check : ℕ → α → Except ε Unit) (key : α → κ) (duplicate : ℕ → ε)
    (amount : α → UInt64) (overflow : ε) : ℕ → List κ → UInt64 → List α → Except ε UInt64
  | _, _, total, [] => .ok total
  | i, seen, total, a :: l => do
      check i a
      failIf (key a ∈ seen) (duplicate i)
      let total ← okOr (checkedAdd total (amount a)) overflow
      sumDistinct check key duplicate amount overflow (i+1) (key a :: seen) total l

/-- The sum of 64-bit amounts as a natural number. -/
def natSum (amount : α → UInt64) (l : List α) : ℕ := (l.map (fun a => (amount a).toNat)).sum

@[simp] lemma natSum_nil (amount : α → UInt64) : natSum amount [] = 0 := rfl

@[simp] lemma natSum_cons (amount : α → UInt64) (a : α) (l : List α) :
    natSum amount (a :: l) = (amount a).toNat + natSum amount l := by
  simp [natSum]

lemma natSum_perm {amount : α → UInt64} {l l' : List α} (h : l.Perm l') :
    natSum amount l = natSum amount l' :=
  (h.map _).sum_eq

variable {check : ℕ → α → Except ε Unit} {key : α → κ} {duplicate : ℕ → ε}
  {amount : α → UInt64} {overflow : ε} {P : α → Prop}

lemma sumDistinct_eq_ok (hc : ∀ i a, check i a = .ok () ↔ P a) (i : ℕ) (seen : List κ)
    (total t : UInt64) (l : List α) :
    sumDistinct check key duplicate amount overflow i seen total l = .ok t ↔
      (∀ a ∈ l, P a) ∧ (l.map key).Nodup ∧ (∀ a ∈ l, key a ∉ seen) ∧
        t.toNat = total.toNat + natSum amount l := by
  induction l generalizing i seen total with
  | nil =>
    simp [sumDistinct, ← UInt64.toNat_inj]
    exact eq_comm
  | cons a l ih =>
    rw [sumDistinct, unit_bind_eq_ok, unit_bind_eq_ok, bind_eq_ok, List.forall_mem_cons,
      List.forall_mem_cons]
    simp only [hc, failIf_eq_ok, okOr_eq_ok, ih, checkedAdd_eq_some, List.map_cons,
      List.nodup_cons, List.mem_map, List.mem_cons, not_or, natSum_cons]
    constructor
    · rintro ⟨ha, hs, s, hadd, hl, hn, hd, ht⟩
      refine ⟨⟨ha, hl⟩, ⟨?_, hn⟩, ⟨hs, fun b hb => (hd b hb).2⟩, by omega⟩
      rintro ⟨b, hb, hk⟩
      exact (hd b hb).1 hk
    · rintro ⟨⟨ha, hl⟩, ⟨hk, hn⟩, ⟨hs, hd⟩, ht⟩
      have hlt := t.toNat_lt
      have hadd : (UInt64.ofNat (total.toNat + (amount a).toNat)).toNat =
          total.toNat + (amount a).toNat := by
        rw [UInt64.toNat_ofNat']
        exact Nat.mod_eq_of_lt (by omega)
      refine ⟨ha, hs, _, hadd, hl, hn, fun b hb => ⟨fun h => hk ⟨b, hb, h⟩, hd b hb⟩, ?_⟩
      omega

end Loops

section Sorting
variable {α κ : Type*} [LinearOrder κ]

/-- The stable sort by a key. -/
def sortByKey (key : α → κ) (l : List α) : List α :=
  l.insertionSort (fun a b => key a ≤ key b)

/-- The elements stand in the order of their keys. -/
def InKeyOrder (key : α → κ) (l : List α) : Prop := l.Pairwise (fun a b => key a ≤ key b)

instance (key : α → κ) (l : List α) : Decidable (InKeyOrder key l) := by
  unfold InKeyOrder
  infer_instance

lemma sortByKey_perm (key : α → κ) (l : List α) : (sortByKey key l).Perm l :=
  List.perm_insertionSort _ l

@[simp] lemma length_sortByKey (key : α → κ) (l : List α) : (sortByKey key l).length = l.length :=
  List.length_insertionSort _ l

lemma sortByKey_inKeyOrder (key : α → κ) (l : List α) : InKeyOrder key (sortByKey key l) :=
  List.pairwise_insertionSort (fun a b => key a ≤ key b) l

lemma sortByKey_eq_self {key : α → κ} {l : List α} : sortByKey key l = l ↔ InKeyOrder key l := by
  constructor
  · intro h
    have hs := sortByKey_inKeyOrder key l
    rwa [h] at hs
  · intro h
    exact List.Pairwise.insertionSort_eq h

lemma sortByKey_eq_of_perm {key : α → κ} {l l' : List α} (hp : l.Perm l')
    (hkey : ∀ a ∈ l, ∀ b ∈ l, key a = key b → a = b) : sortByKey key l = sortByKey key l' := by
  have hperm : (sortByKey key l).Perm (sortByKey key l') :=
    (sortByKey_perm key l).trans (hp.trans (sortByKey_perm key l').symm)
  refine List.Perm.eq_of_pairwise ?_ (sortByKey_inKeyOrder key l) (sortByKey_inKeyOrder key l') hperm
  intro a b ha hb hab hba
  have hal : a ∈ l := (sortByKey_perm key l).mem_iff.mp ha
  have hbl : b ∈ l := hp.mem_iff.mpr ((sortByKey_perm key l').mem_iff.mp hb)
  exact hkey a hal b hbl (le_antisymm hab hba)

lemma perm_of_sortByKey_eq {key : α → κ} {l l' : List α} (h : sortByKey key l = sortByKey key l') :
    l.Perm l' :=
  (sortByKey_perm key l).symm.trans (h ▸ sortByKey_perm key l')

lemma inKeyOrder_of_map_range {key : α → ℕ} {l : List α} {n : ℕ}
    (h : l.map key = List.range n) : InKeyOrder key l := by
  rw [InKeyOrder, ← List.pairwise_map, h]
  exact List.pairwise_le_range

end Sorting
end RgkProtocol.Checked
