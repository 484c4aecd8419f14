import RgkProtocol.ByteStrings

/-!
# Self-delimiting encodings

A field of an encoding can be told from its bytes when they determine it, and where they end,
whatever follows them. Fields of one width, counted lists and flagged options have this, and a
sequence of such fields has it again, so that a layout is read off field by field with no decoder.
-/
namespace RgkProtocol.SelfDelimiting
open ByteStrings
variable {α β γ : Type*} {P : α → Prop} {enc : α → List UInt8} {f : α → β}

/-- Among the values of `P`, the bytes determine what `f` reads and where they end. -/
def Determines (P : α → Prop) (enc : α → List UInt8) (f : α → β) : Prop :=
  ∀ x y, P x → P y → ∀ s t, enc x ++ s = enc y ++ t → f x = f y ∧ s = t

namespace Determines

theorem eq (h : Determines P enc f) {x y : α} (hx : P x) (hy : P y) (he : enc x = enc y) :
    f x = f y :=
  (h x y hx hy [] [] (by rw [he])).1

theorem imp (h : Determines P enc f) {g : α → γ}
    (hg : ∀ x y, P x → P y → f x = f y → g x = g y) : Determines P enc g := by
  intro x y hx hy s t he
  obtain ⟨hf, hst⟩ := h x y hx hy s t he
  exact ⟨hg x y hx hy hf, hst⟩

theorem comap (h : Determines P enc f) (k : γ → α) :
    Determines (fun z => P (k z)) (fun z => enc (k z)) (fun z => f (k z)) :=
  fun x y => h (k x) (k y)

theorem mono (h : Determines P enc f) {Q : α → Prop} (hQ : ∀ x, Q x → P x) :
    Determines Q enc f :=
  fun x y hx hy => h x y (hQ x hx) (hQ y hy)

theorem append {enc' : α → List UInt8} {g : α → γ} (h : Determines P enc f)
    (h' : Determines P enc' g) :
    Determines P (fun x => enc x ++ enc' x) (fun x => (f x, g x)) := by
  intro x y hx hy s t he
  rw [List.append_assoc, List.append_assoc] at he
  obtain ⟨hf, hrest⟩ := h x y hx hy _ _ he
  obtain ⟨hg, hst⟩ := h' x y hx hy s t hrest
  exact ⟨Prod.ext hf hg, hst⟩

/-- A field of one width is cut off by its width. -/
theorem of_width {w : ℕ} (hlen : ∀ x, (enc x).length = w)
    (hf : ∀ x y, enc x = enc y → f x = f y) : Determines P enc f := by
  intro x y _ _ s t he
  obtain ⟨henc, hst⟩ := List.append_inj he (by rw [hlen, hlen])
  exact ⟨hf x y henc, hst⟩

theorem const (bytes : List UInt8) : Determines P (fun _ => bytes) (fun _ => ()) :=
  of_width (w := bytes.length) (fun _ => rfl) fun _ _ _ => rfl

theorem byte (k : α → UInt8) : Determines P (fun x => [k x]) k :=
  of_width (w := 1) (fun _ => rfl) fun _ _ h => by simpa using h

theorem word16 (k : α → UInt16) : Determines P (fun x => le16 (k x)) k :=
  of_width (fun _ => length_le16 _) fun _ _ => le16_inj.mp

theorem word32 (k : α → UInt32) : Determines P (fun x => le32 (k x)) k :=
  of_width (fun _ => length_le32 _) fun _ _ => le32_inj.mp

theorem word64 (k : α → UInt64) : Determines P (fun x => le64 (k x)) k :=
  of_width (fun _ => length_le64 _) fun _ _ => le64_inj.mp

theorem bytes {n : ℕ} (k : α → Bytes n) : Determines P (fun x => (k x).toList) k :=
  of_width (fun x => (k x).length_toList) fun _ _ => Bytes.toList_inj.mp

theorem count {w : ℕ} {k : α → ℕ} (hk : ∀ x, P x → k x < 256^w) :
    Determines P (fun x => leBytes w (k x)) k := by
  intro x y hx hy s t he
  obtain ⟨henc, hst⟩ := List.append_inj he (by simp)
  exact ⟨leBytes_injective (hk x hx) (hk y hy) henc, hst⟩

/-- As many records as a count says are cut off one by one. -/
theorem records (h : Determines P enc f) :
    ∀ xs ys : List α, xs.length = ys.length → (∀ x ∈ xs, P x) → (∀ y ∈ ys, P y) →
      ∀ s t, xs.flatMap enc ++ s = ys.flatMap enc ++ t → xs.map f = ys.map f ∧ s = t := by
  intro xs
  induction xs with
  | nil =>
    intro ys hlen _ _ s t he
    obtain rfl := List.length_eq_zero_iff.mp hlen.symm
    exact ⟨rfl, he⟩
  | cons x xs ih =>
    intro ys hlen hx hy s t he
    cases ys with
    | nil => simp at hlen
    | cons y ys =>
      simp only [List.flatMap_cons, List.append_assoc] at he
      obtain ⟨hhead, hrest⟩ := h x y (hx x (by simp)) (hy y (by simp)) _ _ he
      obtain ⟨htail, hst⟩ := ih ys (by simpa using hlen) (fun z hz => hx z (by simp [hz]))
        (fun z hz => hy z (by simp [hz])) s t hrest
      exact ⟨by simp [hhead, htail], hst⟩

theorem counted (h : Determines P enc f) (w : ℕ) :
    Determines (fun l : List α => l.length < 256^w ∧ ∀ x ∈ l, P x)
      (fun l => leBytes w l.length ++ l.flatMap enc) (List.map f) := by
  have hcount : Determines (fun l : List α => l.length < 256^w ∧ ∀ x ∈ l, P x)
      (fun l => leBytes w l.length) List.length := count fun _ hl => hl.1
  intro xs ys hx hy s t he
  rw [List.append_assoc, List.append_assoc] at he
  obtain ⟨hlen, hrest⟩ := hcount xs ys hx hy _ _ he
  exact h.records xs ys hlen hx.2 hy.2 s t hrest

theorem flagged (h : Determines P enc f) :
    Determines (fun o : Option α => ∀ x ∈ o, P x)
      (fun o => o.elim [0] fun x => 1 :: enc x) (Option.map f) := by
  intro a b ha hb s t he
  cases a with
  | none =>
    cases b with
    | none => exact ⟨rfl, by simpa using he⟩
    | some y => simp at he
  | some x =>
    cases b with
    | none => simp at he
    | some y =>
      have hrest : enc x ++ s = enc y ++ t := by simpa using he
      obtain ⟨hf, hst⟩ := h x y (ha x rfl) (hb y rfl) s t hrest
      exact ⟨congrArg some hf, hst⟩

/-- A field that a flag leaves out reads as a blank. -/
theorem optedOut (h : Determines P enc f) (excluded : Bool) (blank : β) :
    Determines P (fun x => if excluded then [] else enc x)
      (fun x => if excluded then blank else f x) := by
  cases excluded with
  | true => exact (const []).imp fun _ _ _ _ _ => rfl
  | false => exact h

/-- Nonempty records are told apart without a count where nothing follows them. -/
theorem flatMap_inj (h : Determines (fun _ => True) enc id) (hpos : ∀ x, 0 < (enc x).length)
    {xs ys : List α} : xs.flatMap enc = ys.flatMap enc ↔ xs = ys := by
  have hcons : ∀ x (l : List α), (x :: l).flatMap enc ≠ [] := by
    intro x l hnil
    have hlen := congrArg List.length hnil
    have hx := hpos x
    simp only [List.flatMap_cons, List.length_append, List.length_nil] at hlen
    omega
  refine ⟨fun he => ?_, congrArg _⟩
  induction xs generalizing ys with
  | nil =>
    cases ys with
    | nil => rfl
    | cons y ys => exact absurd he.symm (hcons y ys)
  | cons x xs ih =>
    cases ys with
    | nil => exact absurd he (hcons x xs)
    | cons y ys =>
      simp only [List.flatMap_cons] at he
      obtain ⟨hhead, hrest⟩ := h x y trivial trivial _ _ he
      exact congrArg₂ List.cons hhead (ih hrest)

end Determines

/-- A byte string that a 64-bit machine can hold: its length is a machine word. -/
structure ByteVec where
  toList : List UInt8
  length_lt : toList.length < 2^64
  deriving DecidableEq

namespace ByteVec

@[ext] theorem ext {x y : ByteVec} (h : x.toList = y.toList) : x = y := by
  cases x
  cases y
  simp_all

def empty : ByteVec := ⟨[], by norm_num⟩

def single (byte : UInt8) : ByteVec := ⟨[byte], by norm_num⟩

end ByteVec

theorem Determines.sized {w : ℕ} (k : α → ByteVec) (hk : ∀ x, P x → (k x).toList.length < 256^w) :
    Determines P (fun x => leBytes w (k x).toList.length ++ (k x).toList) k := by
  have hcount : Determines P (fun x => leBytes w (k x).toList.length)
      fun x => (k x).toList.length := Determines.count hk
  intro x y hx hy s t he
  rw [List.append_assoc, List.append_assoc] at he
  obtain ⟨hlen, hrest⟩ := hcount x y hx hy _ _ he
  obtain ⟨hbytes, hst⟩ := List.append_inj hrest hlen
  exact ⟨ByteVec.ext hbytes, hst⟩

end RgkProtocol.SelfDelimiting
