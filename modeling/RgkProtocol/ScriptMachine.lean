import Mathlib.Data.Nat.Digits.Lemmas
import RgkProtocol.ByteStrings

/-!
# Byte-coded stack scripts

A stack machine that reads a script one byte at a time. Pushes are built in; what the other
bytes do is a parameter. A script is verified section by section: a section that yields one
value whatever the stack below it, and a section that checks a condition and leaves the stack
as it was.
-/
namespace RgkProtocol.ScriptMachine
open ByteStrings

section Numbers

/-- The bytes of a number from the lowest up, the last of them not zero. -/
def magnitude (n : ℕ) : List UInt8 := (Nat.digits 256 n).map UInt8.ofNat

/-- The top bit of the last byte is the sign. Where the magnitude needs that bit, the sign has a
byte of its own. -/
def withSign (negative : Bool) : List UInt8 → List UInt8
  | [] => []
  | [b] => if b &&& 0x80 ≠ 0 then [b, if negative then 0x80 else 0x00]
      else [if negative then b ||| 0x80 else b]
  | b :: c :: bytes => b :: withSign negative (c :: bytes)

/-- The minimal script number. -/
def numberBytes (n : ℤ) : List UInt8 := withSign (decide (n < 0)) (magnitude n.natAbs)

/-- What an operator that takes an index reads; a negative number is no index. -/
def numberNat (bytes : List UInt8) : Option ℕ :=
  if bytes.getLast?.any (fun b => b &&& 0x80 != 0) then none else some (leNat bytes)

lemma magnitude_zero : magnitude 0 = [] := by simp [magnitude]

lemma magnitude_of_pos {n : ℕ} (h : 0 < n) :
    magnitude n = UInt8.ofNat (n % 256) :: magnitude (n/256) := by
  rw [magnitude, Nat.digits_def' (by norm_num) h]
  rfl

lemma leNat_magnitude (n : ℕ) : leNat (magnitude n) = n := by
  induction n using Nat.strong_induction_on with
  | _ n ih =>
    rcases Nat.eq_zero_or_pos n with rfl | h
    · rw [magnitude_zero]
      rfl
    · have hb : (UInt8.ofNat (n % 256)).toNat = n % 256 := by
        rw [UInt8.toNat_ofNat']
        exact Nat.mod_eq_of_lt (Nat.mod_lt _ (by norm_num))
      rw [magnitude_of_pos h, leNat, ih _ (by omega), hb]
      omega

lemma leNat_withSign (bytes : List UInt8) : leNat (withSign false bytes) = leNat bytes := by
  induction bytes using withSign.induct with
  | case1 => rfl
  | case2 b h => simp [withSign, h, leNat]
  | case3 b h => simp [withSign, h]
  | case4 b c bytes ih => simp only [withSign, leNat] at ih ⊢; rw [ih]

lemma getLast_withSign (bytes : List UInt8) :
    (withSign false bytes).getLast?.any (fun b => b &&& 0x80 != 0) = false := by
  induction bytes using withSign.induct with
  | case1 => rfl
  | case2 b h => simp [withSign, h]
  | case3 b h =>
    have hb : b &&& 0x80 = 0 := not_not.mp h
    simp [withSign, hb]
  | case4 b c bytes ih =>
    obtain ⟨d, ds, hd⟩ : ∃ d ds, withSign false (c :: bytes) = d :: ds := by
      cases bytes with
      | nil => by_cases h : c &&& 0x80 = 0 <;> simp [withSign, h]
      | cons e es => exact ⟨c, _, rfl⟩
    rw [withSign]
    rw [hd] at ih ⊢
    rw [List.getLast?_cons_cons]
    exact ih

@[simp] lemma numberNat_numberBytes (n : ℕ) : numberNat (numberBytes n) = some n := by
  have hn : decide ((n : ℤ) < 0) = false := by simp
  rw [numberNat, numberBytes, hn, getLast_withSign, Int.natAbs_natCast, leNat_withSign,
    leNat_magnitude]
  rfl

@[simp] lemma numberBytes_inj {m n : ℕ} : numberBytes m = numberBytes n ↔ m = n := by
  constructor
  · intro h
    simpa using congrArg numberNat h
  · rintro rfl
    rfl

end Numbers

section Machine

abbrev Stack := List (List UInt8)

/-- What a byte that is no push does to the stack. -/
inductive Operator where
  | push (value : List UInt8)
  | unary (f : List UInt8 → Option (List UInt8))
  | binary (f : List UInt8 → List UInt8 → Option (List UInt8))

def Operator.apply : Operator → Stack → Option Stack
  | .push value, stack => some (value :: stack)
  | .unary f, x :: stack => (f x).map (· :: stack)
  | .binary f, y :: x :: stack => (f x y).map (· :: stack)
  | _, _ => none

/-- Where the machine is in the script: at an instruction, in the length of a push, or in its
data. -/
inductive Mode where
  | ready
  | lengthBytes (left : ℕ) (read : List UInt8)
  | data (left : ℕ) (read : List UInt8)
  deriving DecidableEq

structure Machine where
  mode : Mode
  stack : Stack
  deriving DecidableEq

/-- A push of `n` bytes begins. -/
def announce (n : ℕ) (stack : Stack) : Machine :=
  if n = 0 then ⟨.ready, [] :: stack⟩ else ⟨.data n [], stack⟩

def equalVerify : Stack → Option Stack
  | y :: x :: stack => if x = y then some stack else none
  | _ => none

/-- The bytes whose meaning is a parameter. -/
def IsOperator (b : UInt8) : Prop := 0x60 < b.toNat ∧ b ≠ 0x88

instance (b : UInt8) : Decidable (IsOperator b) := inferInstanceAs (Decidable (_ ∧ _))

variable (ops : UInt8 → Option Operator)

def instruction (stack : Stack) (b : UInt8) : Option Machine :=
  if b.toNat ≤ 0x4b then some (announce b.toNat stack)
  else if b = 0x4c then some ⟨.lengthBytes 1 [], stack⟩
  else if b = 0x4d then some ⟨.lengthBytes 2 [], stack⟩
  else if b = 0x4e then some ⟨.lengthBytes 4 [], stack⟩
  else if b = 0x4f then some ⟨.ready, numberBytes (-1) :: stack⟩
  else if 0x51 ≤ b.toNat ∧ b.toNat ≤ 0x60 then
    some ⟨.ready, numberBytes (b.toNat - 0x50 : ℕ) :: stack⟩
  else if b = 0x88 then (equalVerify stack).map (Machine.mk .ready)
  else ((ops b).bind (·.apply stack)).map (Machine.mk .ready)

def step (m : Machine) (b : UInt8) : Option Machine :=
  match m.mode with
  | .ready => instruction ops m.stack b
  | .lengthBytes left read =>
      if left ≤ 1 then some (announce (leNat (read ++ [b])) m.stack)
      else some ⟨.lengthBytes (left-1) (read ++ [b]), m.stack⟩
  | .data left read =>
      if left ≤ 1 then some ⟨.ready, (read ++ [b]) :: m.stack⟩
      else some ⟨.data (left-1) (read ++ [b]), m.stack⟩

def run (script : List UInt8) (m : Machine) : Option Machine := script.foldlM (step ops) m

/-- Zero of either sign is false. -/
def isTrue (bytes : List UInt8) : Bool :=
  bytes.dropLast.any (· != 0) || bytes.getLast?.any (fun b => b != 0 && b != 0x80)

/-- The script runs to its end from the empty stack and leaves a true value on top. -/
def succeeds (script : List UInt8) : Bool :=
  match run ops script ⟨.ready, []⟩ with
  | some ⟨.ready, top :: _⟩ => isTrue top
  | _ => false

end Machine

section Pushes
variable {ops : UInt8 → Option Operator}

lemma run_append (x y : List UInt8) (m : Machine) :
    run ops (x ++ y) m = (run ops x m).bind (run ops y) := by
  rw [run, List.foldlM_append]
  rfl

lemma run_cons (b : UInt8) (script : List UInt8) (m : Machine) :
    run ops (b :: script) m = (step ops m b).bind (run ops script) := rfl

lemma run_singleton (b : UInt8) (m : Machine) : run ops [b] m = step ops m b := by
  rw [run_cons]
  cases step ops m b <;> rfl

lemma run_data {data : List UInt8} (hne : data ≠ []) (read : List UInt8) (stack : Stack) :
    run ops data ⟨.data data.length read, stack⟩ = some ⟨.ready, (read ++ data) :: stack⟩ := by
  induction data generalizing read with
  | nil => exact absurd rfl hne
  | cons b data ih =>
    rw [run_cons]
    cases data with
    | nil => rfl
    | cons c data =>
      have hstep : step ops ⟨.data (b :: c :: data).length read, stack⟩ b =
          some ⟨.data (c :: data).length (read ++ [b]), stack⟩ := by
        simp [step]
      rw [hstep, Option.bind_some, ih (by simp), List.append_assoc, List.singleton_append]

lemma run_announce (data : List UInt8) (stack : Stack) :
    run ops data (announce data.length stack) = some ⟨.ready, data :: stack⟩ := by
  cases data with
  | nil => rfl
  | cons b data => exact run_data (by simp) [] stack

lemma run_lengthBytes {bytes : List UInt8} (hne : bytes ≠ []) (read : List UInt8)
    (stack : Stack) :
    run ops bytes ⟨.lengthBytes bytes.length read, stack⟩ =
      some (announce (leNat (read ++ bytes)) stack) := by
  induction bytes generalizing read with
  | nil => exact absurd rfl hne
  | cons b bytes ih =>
    rw [run_cons]
    cases bytes with
    | nil => rfl
    | cons c bytes =>
      have hstep : step ops ⟨.lengthBytes (b :: c :: bytes).length read, stack⟩ b =
          some ⟨.lengthBytes (c :: bytes).length (read ++ [b]), stack⟩ := by
        simp [step]
      rw [hstep, Option.bind_some, ih (by simp), List.append_assoc, List.singleton_append]

end Pushes

section Sections
variable {ops : UInt8 → Option Operator}

/-- Whatever the stack, the section puts one value on top of it, or fails. -/
def Yields (ops : UInt8 → Option Operator) (code : List UInt8) (value : Option (List UInt8)) :
    Prop :=
  ∀ stack, run ops code ⟨.ready, stack⟩ = value.map (fun x => ⟨.ready, x :: stack⟩)

/-- Whatever the stack, the section leaves it as it was if the condition holds, and fails if it
does not. -/
def Checks (ops : UInt8 → Option Operator) (code : List UInt8) (condition : Prop) : Prop :=
  ∀ stack, (condition → run ops code ⟨.ready, stack⟩ = some ⟨.ready, stack⟩) ∧
    (¬ condition → run ops code ⟨.ready, stack⟩ = none)

lemma yields_direct {data : List UInt8} (h : data.length ≤ 0x4b) :
    Yields ops (UInt8.ofNat data.length :: data) (some data) := by
  intro stack
  have hb : (UInt8.ofNat data.length).toNat = data.length := by
    rw [UInt8.toNat_ofNat']
    exact Nat.mod_eq_of_lt (by omega)
  rw [run_cons, step, instruction, hb, if_pos h]
  exact run_announce data stack

/-- A push whose length stands in `w` little-endian bytes behind its opcode. -/
lemma yields_announced {b : UInt8} {w : ℕ} {data : List UInt8} (hw : w ≠ 0)
    (hb : ∀ stack, instruction ops stack b = some ⟨.lengthBytes w [], stack⟩)
    (h : data.length < 256^w) :
    Yields ops (b :: (leBytes w data.length ++ data)) (some data) := by
  intro stack
  have hne : leBytes w data.length ≠ [] := by
    intro he
    have hlen := congrArg List.length he
    rw [length_leBytes, List.length_nil] at hlen
    exact hw hlen
  have hread : run ops (leBytes w data.length) ⟨.lengthBytes w [], stack⟩ =
      some (announce data.length stack) := by
    have hbytes : run ops _ _ = _ := run_lengthBytes hne [] stack
    rwa [length_leBytes, List.nil_append, leNat_leBytes, Nat.mod_eq_of_lt h] at hbytes
  rw [run_cons, step, hb, Option.bind_some, run_append, hread]
  exact run_announce data stack

lemma yields_small {n : ℕ} (h1 : 1 ≤ n) (h16 : n ≤ 16) :
    Yields ops [UInt8.ofNat (0x50 + n)] (some (numberBytes n)) := by
  intro stack
  interval_cases n <;> rfl

variable {b : UInt8} (hb : IsOperator b)
include hb

lemma instruction_operator (stack : Stack) :
    instruction ops stack b = ((ops b).bind (·.apply stack)).map (Machine.mk .ready) := by
  obtain ⟨hlarge, hne⟩ := hb
  have hsmall : ∀ c : UInt8, c.toNat ≤ 0x60 → b ≠ c := by
    rintro c hc rfl
    omega
  rw [instruction, if_neg (by omega), if_neg (hsmall _ (by decide)), if_neg (hsmall _ (by decide)),
    if_neg (hsmall _ (by decide)), if_neg (hsmall _ (by decide)), if_neg (by omega), if_neg hne]

lemma yields_push {value : List UInt8} (h : ops b = some (.push value)) :
    Yields ops [b] (some value) := by
  intro stack
  rw [run_singleton, step, instruction_operator hb, h]
  rfl

lemma Yields.unary {f : List UInt8 → Option (List UInt8)} {code : List UInt8}
    {value : Option (List UInt8)} (h : ops b = some (.unary f)) (hx : Yields ops code value) :
    Yields ops (code ++ [b]) (value.bind f) := by
  intro stack
  rw [run_append, hx]
  cases value with
  | none => rfl
  | some x =>
    rw [Option.map_some, Option.bind_some, Option.bind_some, run_singleton, step,
      instruction_operator hb, h, Option.bind_some, Operator.apply, Option.map_map]
    rfl

lemma Yields.binary {f : List UInt8 → List UInt8 → Option (List UInt8)} {code code' : List UInt8}
    {value value' : Option (List UInt8)} (h : ops b = some (.binary f)) (hx : Yields ops code value)
    (hy : Yields ops code' value') :
    Yields ops (code ++ code' ++ [b]) (value.bind (fun x => value'.bind (f x))) := by
  intro stack
  rw [run_append, run_append, hx]
  cases value with
  | none => rfl
  | some x =>
    rw [Option.map_some, Option.bind_some, hy]
    cases value' with
    | none => rfl
    | some y =>
      rw [Option.map_some, Option.bind_some, Option.bind_some, Option.bind_some, run_singleton,
        step, instruction_operator hb, h, Option.bind_some, Operator.apply, Option.map_map]
      rfl

end Sections

section Rules
variable {ops : UInt8 → Option Operator} {code code' : List UInt8} {condition condition' : Prop}

lemma Yields.equalVerify {value value' : Option (List UInt8)} (hx : Yields ops code value)
    (hy : Yields ops code' value') :
    Checks ops (code ++ code' ++ [0x88]) (∃ x, value = some x ∧ value' = some x) := by
  intro stack
  rw [run_append, run_append, hx]
  cases value with
  | none => simp
  | some x =>
    rw [Option.map_some, Option.bind_some, hy]
    cases value' with
    | none => simp
    | some y =>
      have hstep : run ops [0x88] ⟨.ready, y :: x :: stack⟩ =
          if x = y then some ⟨.ready, stack⟩ else none := by
        rw [run_singleton]
        change (ScriptMachine.equalVerify (y :: x :: stack)).map (Machine.mk .ready) = _
        rw [ScriptMachine.equalVerify]
        split_ifs <;> rfl
      rw [Option.map_some, Option.bind_some, hstep]
      by_cases hxy : x = y <;> simp [hxy, eq_comm]

lemma Checks.congr (h : Checks ops code condition) (hiff : condition ↔ condition') :
    Checks ops code condition' := by
  intro stack
  rw [← hiff]
  exact h stack

lemma checks_nil : Checks ops [] True := by
  intro stack
  exact ⟨fun _ => rfl, fun h => absurd trivial h⟩

lemma Checks.append (h : Checks ops code condition)
    (h' : condition → Checks ops code' condition') :
    Checks ops (code ++ code') (condition ∧ condition') := by
  intro stack
  rw [run_append]
  by_cases hc : condition
  · rw [(h stack).1 hc, Option.bind_some, and_iff_right hc]
    exact h' hc stack
  · rw [(h stack).2 hc]
    exact ⟨fun hcc => absurd hcc.1 hc, fun _ => rfl⟩

lemma checks_flatMap {α : Type*} {emit : α → List UInt8} {P : α → Prop} {l : List α}
    (h : ∀ a ∈ l, Checks ops (emit a) (P a)) :
    Checks ops (l.flatMap emit) (∀ a ∈ l, P a) := by
  induction l with
  | nil => exact checks_nil.congr (by simp)
  | cons a l ih =>
    obtain ⟨ha, hl⟩ := List.forall_mem_cons.mp h
    rw [List.flatMap_cons]
    exact (ha.append (fun _ => ih hl)).congr List.forall_mem_cons.symm

/-- A script that ends with OP_TRUE succeeds exactly if everything before it passes. -/
lemma Checks.succeeds_iff (h : Checks ops code condition) :
    succeeds ops (code ++ [0x51]) = true ↔ condition := by
  rw [succeeds, run_append]
  by_cases hc : condition
  · have htrue : run ops [0x51] ⟨.ready, []⟩ = some ⟨.ready, [numberBytes 1]⟩ :=
      yields_small le_rfl (by norm_num) []
    have hone : isTrue (numberBytes 1) = true := by decide +kernel
    rw [(h []).1 hc, Option.bind_some, htrue]
    exact ⟨fun _ => hc, fun _ => hone⟩
  · rw [(h []).2 hc]
    simp [hc]

/-- The script runs to its end from a stack that is already there and leaves a true value on top. -/
def SucceedsFrom (ops : UInt8 → Option Operator) (stack : Stack) (script : List UInt8) : Prop :=
  ∃ top rest, run ops script ⟨.ready, stack⟩ = some ⟨.ready, top :: rest⟩ ∧ isTrue top = true

/-- What lies below does not help a script that only checks. -/
lemma Checks.succeedsFrom_iff (h : Checks ops code condition) (stack : Stack) :
    SucceedsFrom ops stack (code ++ [0x51]) ↔ condition := by
  rw [SucceedsFrom, run_append]
  by_cases hc : condition
  · have htrue : run ops [0x51] ⟨.ready, stack⟩ = some ⟨.ready, numberBytes 1 :: stack⟩ :=
      yields_small le_rfl (by norm_num) stack
    have hone : isTrue (numberBytes 1) = true := by decide +kernel
    rw [(h stack).1 hc, Option.bind_some, htrue]
    exact ⟨fun _ => hc, fun _ => ⟨_, _, rfl, hone⟩⟩
  · rw [(h stack).2 hc]
    simp [hc]

end Rules

end RgkProtocol.ScriptMachine
