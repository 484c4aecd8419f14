import RgkProtocol.ScriptMachine

/-!
# Scripts as lists of operations

A script is split into pushes, each with the form in which its length is written, and other
operators. The machine agrees with the parser: an operation that is read as a push puts the
pushed bytes on the stack. Script numbers are read back with the sign in their top bit, and the
bytes of `numberBytes` are the only shortest ones for their number.
-/
namespace RgkProtocol.ScriptParser
open ByteStrings ScriptMachine

section Parser

/-- How the pushed bytes stand in the script. -/
inductive PushForm where
  | constant
  | direct
  | pushData1
  | pushData2
  | pushData4
  deriving DecidableEq, Repr

inductive ScriptOp where
  | push (form : PushForm) (data : List UInt8)
  | operator (code : UInt8)
  deriving DecidableEq, Repr

def takeData (form : PushForm) (n : ℕ) (rest : List UInt8) : Option (ScriptOp × List UInt8) :=
  if n ≤ rest.length then some (.push form (rest.take n), rest.drop n) else none

/-- The length of the data stands in `w` little-endian bytes before it. -/
def takeSized (form : PushForm) (w : ℕ) (rest : List UInt8) : Option (ScriptOp × List UInt8) :=
  if w ≤ rest.length then takeData form (leNat (rest.take w)) (rest.drop w) else none

/-- The first operation of a script and what is left. -/
def nextOp : List UInt8 → Option (ScriptOp × List UInt8)
  | [] => none
  | b :: rest =>
      if b.toNat ≤ 0x4b then takeData .direct b.toNat rest
      else if b = 0x4c then takeSized .pushData1 1 rest
      else if b = 0x4d then takeSized .pushData2 2 rest
      else if b = 0x4e then takeSized .pushData4 4 rest
      else if b = 0x4f then some (.push .constant (numberBytes (-1)), rest)
      else if 0x51 ≤ b.toNat ∧ b.toNat ≤ 0x60 then
        some (.push .constant (numberBytes (b.toNat - 0x50 : ℕ)), rest)
      else some (.operator b, rest)

def parseFuel : ℕ → List UInt8 → Option (List ScriptOp)
  | _, [] => some []
  | 0, _ :: _ => none
  | fuel+1, b :: rest => do
      let (op, rest) ← nextOp (b :: rest)
      let ops ← parseFuel fuel rest
      some (op :: ops)

/-- Every operation takes at least one byte, so the length of the script is fuel enough. -/
def parse (code : List UInt8) : Option (List ScriptOp) := parseFuel code.length code

lemma takeData_append (form : PushForm) (data rest : List UInt8) :
    takeData form data.length (data ++ rest) = some (.push form data, rest) := by
  simp [takeData]

lemma takeSized_append {form : PushForm} {w : ℕ} {data : List UInt8} (h : data.length < 256^w)
    (rest : List UInt8) :
    takeSized form w (leBytes w data.length ++ data ++ rest) = some (.push form data, rest) := by
  have hw : w ≤ (leBytes w data.length ++ data ++ rest).length := by
    simp only [List.length_append, length_leBytes]
    omega
  rw [takeSized, if_pos hw, List.append_assoc, List.take_left' (length_leBytes w _),
    List.drop_left' (length_leBytes w _), leNat_leBytes, Nat.mod_eq_of_lt h]
  exact takeData_append form data rest

lemma takeData_eq_some {form : PushForm} {n : ℕ} {code rest : List UInt8} {op : ScriptOp} :
    takeData form n code = some (op, rest) ↔
      ∃ data, data.length = n ∧ op = .push form data ∧ code = data ++ rest := by
  constructor
  · intro h
    unfold takeData at h
    split_ifs at h with hn
    obtain ⟨rfl, rfl⟩ := Prod.mk.inj (Option.some.inj h)
    exact ⟨code.take n, List.length_take_of_le hn, rfl, (List.take_append_drop n code).symm⟩
  · rintro ⟨data, rfl, rfl, rfl⟩
    exact takeData_append form data rest

lemma takeSized_eq_some {form : PushForm} {w : ℕ} {code rest : List UInt8} {op : ScriptOp}
    (h : takeSized form w code = some (op, rest)) :
    ∃ data, data.length < 256^w ∧ op = .push form data ∧
      code = leBytes w data.length ++ data ++ rest := by
  unfold takeSized at h
  split_ifs at h with hw
  obtain ⟨data, hlen, hop, hrest⟩ := takeData_eq_some.mp h
  have htake : (code.take w).length = w := List.length_take_of_le hw
  have hsize : leBytes w data.length = code.take w := by
    have hbytes := leBytes_leNat (code.take w)
    rwa [htake, ← hlen] at hbytes
  refine ⟨data, ?_, hop, ?_⟩
  · have hlt := leNat_lt (code.take w)
    rwa [htake, ← hlen] at hlt
  · rw [hsize, List.append_assoc, ← hrest, List.take_append_drop]

end Parser

section Runs

/-- An operation is cut off the front, and more script behind it does not change it. -/
lemma nextOp_append {code rest : List UInt8} {op : ScriptOp} (h : nextOp code = some (op, rest))
    (more : List UInt8) : nextOp (code ++ more) = some (op, rest ++ more) := by
  have hdata : ∀ {form n l}, takeData form n l = some (op, rest) →
      takeData form n (l ++ more) = some (op, rest ++ more) := by
    intro form n l hl
    obtain ⟨data, hlen, hop, rfl⟩ := takeData_eq_some.mp hl
    exact takeData_eq_some.mpr ⟨data, hlen, hop, List.append_assoc _ _ _⟩
  have hsized : ∀ {form w l}, takeSized form w l = some (op, rest) →
      takeSized form w (l ++ more) = some (op, rest ++ more) := by
    intro form w l hl
    obtain ⟨data, hlt, rfl, rfl⟩ := takeSized_eq_some hl
    rw [List.append_assoc]
    exact takeSized_append hlt (rest ++ more)
  cases code with
  | nil => simp [nextOp] at h
  | cons b l =>
    simp only [nextOp, List.cons_append] at h ⊢
    split_ifs at h ⊢
    · exact hdata h
    · exact hsized h
    · exact hsized h
    · exact hsized h
    all_goals
      obtain ⟨rfl, rfl⟩ := Prod.mk.inj (Option.some.inj h)
      rfl

lemma nextOp_length {code rest : List UInt8} {op : ScriptOp} (h : nextOp code = some (op, rest)) :
    rest.length < code.length := by
  cases code with
  | nil => simp [nextOp] at h
  | cons b l =>
    have hdata : ∀ {form n}, takeData form n l = some (op, rest) → rest.length ≤ l.length := by
      intro form n hl
      obtain ⟨data, -, -, rfl⟩ := takeData_eq_some.mp hl
      simp
    have hsized : ∀ {form w}, takeSized form w l = some (op, rest) → rest.length ≤ l.length := by
      intro form w hl
      obtain ⟨data, -, -, rfl⟩ := takeSized_eq_some hl
      simp only [List.length_append]
      omega
    have hle : rest.length ≤ l.length := by
      simp only [nextOp] at h
      split_ifs at h
      · exact hdata h
      · exact hsized h
      · exact hsized h
      · exact hsized h
      all_goals exact (congrArg List.length (Prod.mk.inj (Option.some.inj h)).2).ge
    exact Nat.lt_succ_of_le hle

/-- A script and its operations, without the fuel. -/
inductive Parses : List UInt8 → List ScriptOp → Prop
  | nil : Parses [] []
  | cons {code rest op ops} : nextOp code = some (op, rest) → Parses rest ops →
      Parses code (op :: ops)

lemma parses_of_parseFuel {fuel : ℕ} {code : List UInt8} {ops : List ScriptOp}
    (h : parseFuel fuel code = some ops) : Parses code ops := by
  induction fuel generalizing code ops with
  | zero =>
    cases code with
    | nil => cases h; exact .nil
    | cons b l => cases h
  | succ fuel ih =>
    cases code with
    | nil => cases h; exact .nil
    | cons b l =>
      simp only [parseFuel, Option.bind_eq_bind, Option.bind_eq_some_iff] at h
      obtain ⟨⟨op, rest⟩, hop, tail, hrest, htail⟩ := h
      obtain rfl := Option.some.inj htail
      exact .cons hop (ih hrest)

lemma Parses.parseFuel {code : List UInt8} {ops : List ScriptOp} (h : Parses code ops) {fuel : ℕ}
    (hle : code.length ≤ fuel) : parseFuel fuel code = some ops := by
  induction h generalizing fuel with
  | nil => cases fuel <;> rfl
  | @cons code rest op ops hop _ ih =>
    have hlt := nextOp_length hop
    obtain ⟨fuel, rfl⟩ : ∃ k, fuel = k+1 := ⟨fuel-1, by omega⟩
    cases code with
    | nil => simp [nextOp] at hop
    | cons b l =>
      have hrest := ih (show rest.length ≤ fuel by omega)
      simp only [ScriptParser.parseFuel, hop, hrest, Option.bind_eq_bind, Option.bind_some]

lemma parse_eq_some {code : List UInt8} {ops : List ScriptOp} :
    parse code = some ops ↔ Parses code ops :=
  ⟨parses_of_parseFuel, fun h => h.parseFuel le_rfl⟩

lemma Parses.append {code more : List UInt8} {ops ops' : List ScriptOp} (h : Parses code ops)
    (h' : Parses more ops') : Parses (code ++ more) (ops ++ ops') := by
  induction h with
  | nil => exact h'
  | cons hop _ ih => exact .cons (nextOp_append hop more) ih

lemma parse_append {code more : List UInt8} {ops ops' : List ScriptOp} (h : parse code = some ops)
    (h' : parse more = some ops') : parse (code ++ more) = some (ops ++ ops') :=
  parse_eq_some.mpr ((parse_eq_some.mp h).append (parse_eq_some.mp h'))

lemma parse_eq_singleton {code : List UInt8} {op : ScriptOp} :
    parse code = some [op] ↔ nextOp code = some (op, []) := by
  rw [parse_eq_some]
  constructor
  · intro h
    cases h with
    | cons hop hrest =>
      cases hrest
      exact hop
  · intro h
    exact .cons h .nil

end Runs

section Forms

def directPush (data : List UInt8) : Option (List UInt8) :=
  if data.length ≤ 0x4b then some (UInt8.ofNat data.length :: data) else none

def sizedPush (b : UInt8) (w : ℕ) (data : List UInt8) : Option (List UInt8) :=
  if data.length < 256^w then some (b :: (leBytes w data.length ++ data)) else none

/-- The bytes of a push in a given form, where the length of the data fits it. -/
def dataPush : PushForm → List UInt8 → Option (List UInt8)
  | .constant => fun _ => none
  | .direct => directPush
  | .pushData1 => sizedPush 0x4c 1
  | .pushData2 => sizedPush 0x4d 2
  | .pushData4 => sizedPush 0x4e 4

lemma directPush_eq_some {data code : List UInt8} :
    directPush data = some code ↔ data.length ≤ 0x4b ∧ code = UInt8.ofNat data.length :: data := by
  rw [directPush, Option.ite_none_right_eq_some, Option.some.injEq, eq_comm (b := code)]

lemma sizedPush_eq_some {b : UInt8} {w : ℕ} {data code : List UInt8} :
    sizedPush b w data = some code ↔
      data.length < 256^w ∧ code = b :: (leBytes w data.length ++ data) := by
  rw [sizedPush, Option.ite_none_right_eq_some, Option.some.injEq, eq_comm (b := code)]

lemma nextOp_sizedPush {b : UInt8} {w : ℕ} {form : PushForm} {data code : List UInt8}
    (hb : ∀ l, nextOp (b :: l) = takeSized form w l) (h : sizedPush b w data = some code)
    (rest : List UInt8) : nextOp (code ++ rest) = some (.push form data, rest) := by
  obtain ⟨hlen, rfl⟩ := sizedPush_eq_some.mp h
  rw [List.cons_append, hb]
  exact takeSized_append hlen rest

lemma nextOp_dataPush {form : PushForm} {data code : List UInt8}
    (h : dataPush form data = some code) (rest : List UInt8) :
    nextOp (code ++ rest) = some (.push form data, rest) := by
  cases form with
  | constant => cases h
  | direct =>
    obtain ⟨hlen, rfl⟩ := directPush_eq_some.mp h
    have hb : (UInt8.ofNat data.length).toNat = data.length := by
      rw [UInt8.toNat_ofNat']
      exact Nat.mod_eq_of_lt (by omega)
    rw [List.cons_append, nextOp, hb, if_pos hlen]
    exact takeData_append .direct data rest
  | pushData1 => exact nextOp_sizedPush (fun _ => rfl) h rest
  | pushData2 => exact nextOp_sizedPush (fun _ => rfl) h rest
  | pushData4 => exact nextOp_sizedPush (fun _ => rfl) h rest

lemma sizedPush_of_takeSized {form form' : PushForm} {w : ℕ} {l rest data : List UInt8} (b : UInt8)
    (h : takeSized form' w l = some (.push form data, rest)) :
    form = form' ∧ ∃ push, sizedPush b w data = some push ∧ b :: l = push ++ rest := by
  obtain ⟨data', hlen, hpush, rfl⟩ := takeSized_eq_some h
  obtain ⟨rfl, rfl⟩ := ScriptOp.push.inj hpush
  exact ⟨rfl, _, sizedPush_eq_some.mpr ⟨hlen, rfl⟩, rfl⟩

/-- The bytes before the data. -/
def PushForm.overhead : PushForm → ℕ
  | .constant => 1
  | .direct => 1
  | .pushData1 => 2
  | .pushData2 => 3
  | .pushData4 => 5

/-- The greatest length that a form can announce. -/
def PushForm.capacity : PushForm → ℕ
  | .constant => 0
  | .direct => 0x4b
  | .pushData1 => 0xff
  | .pushData2 => 0xffff
  | .pushData4 => 0xffffffff

lemma length_dataPush {form : PushForm} {data code : List UInt8}
    (h : dataPush form data = some code) :
    code.length = form.overhead + data.length ∧ data.length ≤ form.capacity := by
  cases form with
  | constant => cases h
  | direct =>
    obtain ⟨hlen, rfl⟩ := directPush_eq_some.mp h
    exact ⟨by rw [List.length_cons, PushForm.overhead]; omega, hlen⟩
  | pushData1 | pushData2 | pushData4 =>
    obtain ⟨hlen, rfl⟩ := sizedPush_eq_some.mp h
    simp only [List.length_cons, List.length_append, length_leBytes, PushForm.overhead,
      PushForm.capacity]
    omega

/-- A push that is read has its own form in the script, or it is one of the constants. -/
lemma dataPush_of_nextOp {code rest data : List UInt8} {form : PushForm}
    (h : nextOp code = some (.push form data, rest)) :
    (∃ push, dataPush form data = some push ∧ code = push ++ rest) ∨
      form = .constant ∧ ∃ b, code = b :: rest ∧
        (b = 0x4f ∧ data = numberBytes (-1) ∨ ∃ k, 1 ≤ k ∧ k ≤ 16 ∧ b = UInt8.ofNat (0x50+k) ∧
          data = numberBytes (k : ℕ)) := by
  cases code with
  | nil => simp [nextOp] at h
  | cons b l =>
    simp only [nextOp] at h
    split_ifs at h with hdirect h1 h2 h4 hneg hsmall
    · obtain ⟨data', hlen, hpush, rfl⟩ := takeData_eq_some.mp h
      obtain ⟨rfl, rfl⟩ := ScriptOp.push.inj hpush
      refine .inl ⟨b :: data, directPush_eq_some.mpr ⟨hlen ▸ hdirect, ?_⟩, rfl⟩
      rw [hlen, UInt8.ofNat_toNat]
    · subst h1
      obtain ⟨rfl, push, hpush⟩ := sizedPush_of_takeSized 0x4c h
      exact .inl ⟨push, hpush⟩
    · subst h2
      obtain ⟨rfl, push, hpush⟩ := sizedPush_of_takeSized 0x4d h
      exact .inl ⟨push, hpush⟩
    · subst h4
      obtain ⟨rfl, push, hpush⟩ := sizedPush_of_takeSized 0x4e h
      exact .inl ⟨push, hpush⟩
    · simp only [Option.some.injEq, Prod.mk.injEq, ScriptOp.push.injEq] at h
      obtain ⟨⟨rfl, rfl⟩, rfl⟩ := h
      exact .inr ⟨rfl, b, rfl, .inl ⟨hneg, rfl⟩⟩
    · simp only [Option.some.injEq, Prod.mk.injEq, ScriptOp.push.injEq] at h
      obtain ⟨⟨rfl, rfl⟩, rfl⟩ := h
      refine .inr ⟨rfl, b, rfl, .inr ⟨b.toNat-0x50, by omega, by omega, ?_, rfl⟩⟩
      rw [show 0x50 + (b.toNat-0x50) = b.toNat by omega, UInt8.ofNat_toNat]
    · simp at h

lemma parse_eq_dataPush {form : PushForm} {data code : List UInt8} (hform : form ≠ .constant) :
    parse code = some [.push form data] ↔ dataPush form data = some code := by
  rw [parse_eq_singleton]
  constructor
  · intro h
    rcases dataPush_of_nextOp h with ⟨push, hpush, rfl⟩ | ⟨hconst, -⟩
    · rw [hpush, List.append_nil]
    · exact absurd hconst hform
  · intro h
    simpa using nextOp_dataPush h []

variable {ops : UInt8 → Option Operator}

lemma yields_dataPush {form : PushForm} {data code : List UInt8}
    (h : dataPush form data = some code) : Yields ops code (some data) := by
  cases form with
  | constant => cases h
  | direct =>
    obtain ⟨hlen, rfl⟩ := directPush_eq_some.mp h
    exact yields_direct hlen
  | pushData1 =>
    obtain ⟨hlen, rfl⟩ := sizedPush_eq_some.mp h
    exact yields_announced one_ne_zero (fun _ => rfl) hlen
  | pushData2 =>
    obtain ⟨hlen, rfl⟩ := sizedPush_eq_some.mp h
    exact yields_announced two_ne_zero (fun _ => rfl) hlen
  | pushData4 =>
    obtain ⟨hlen, rfl⟩ := sizedPush_eq_some.mp h
    exact yields_announced four_ne_zero (fun _ => rfl) hlen

lemma yields_of_parse {code data : List UInt8} {form : PushForm}
    (h : parse code = some [.push form data]) : Yields ops code (some data) := by
  rcases dataPush_of_nextOp (parse_eq_singleton.mp h) with ⟨push, hpush, rfl⟩ |
    ⟨-, b, rfl, ⟨rfl, rfl⟩ | ⟨k, h1, h16, rfl, rfl⟩⟩
  · rw [List.append_nil]
    exact yields_dataPush hpush
  · exact fun _ => rfl
  · exact yields_small h1 h16

end Forms

section Numbers

/-- The number without the top bit of its last byte. -/
def numberMagnitude : List UInt8 → ℕ
  | [] => 0
  | [b] => b.toNat % 128
  | b :: c :: bytes => b.toNat + 256 * numberMagnitude (c :: bytes)

def numberNegative (bytes : List UInt8) : Bool := bytes.getLast?.any (fun b => 128 ≤ b.toNat)

/-- The number that a little-endian sign-magnitude byte string stands for. -/
def numberValue (bytes : List UInt8) : ℤ :=
  if numberNegative bytes then -(numberMagnitude bytes : ℤ) else numberMagnitude bytes

/-- The bytes stand for the number, and all others that do are longer. -/
def IsMinimalNumber (bytes : List UInt8) (n : ℤ) : Prop :=
  numberValue bytes = n ∧
    ∀ other, numberValue other = n → other = bytes ∨ bytes.length < other.length

lemma and_top {b : UInt8} : b &&& 0x80 ≠ 0 ↔ 128 ≤ b.toNat := by
  have hall : ∀ k : Fin 256, UInt8.ofNat k &&& 0x80 ≠ 0 ↔ 128 ≤ (UInt8.ofNat k).toNat := by
    decide +kernel
  simpa using hall ⟨b.toNat, b.toNat_lt⟩

lemma toNat_or_top {b : UInt8} (h : b.toNat < 128) : (b ||| 0x80).toNat = b.toNat + 128 := by
  have hall : ∀ k : Fin 128, (UInt8.ofNat k ||| 0x80).toNat = k.val + 128 := by decide +kernel
  simpa using hall ⟨b.toNat, h⟩

lemma numberNegative_cons (b c : UInt8) (bytes : List UInt8) :
    numberNegative (b :: c :: bytes) = numberNegative (c :: bytes) := by
  rw [numberNegative, List.getLast?_cons_cons, numberNegative]

lemma withSign_cons (negative : Bool) (c : UInt8) (bytes : List UInt8) :
    ∃ d ds, withSign negative (c :: bytes) = d :: ds := by
  cases bytes with
  | nil =>
    rw [withSign]
    split_ifs <;> exact ⟨_, _, rfl⟩
  | cons e es => exact ⟨c, _, rfl⟩

lemma numberMagnitude_withSign (negative : Bool) (bytes : List UInt8) :
    numberMagnitude (withSign negative bytes) = leNat bytes := by
  induction bytes using withSign.induct with
  | case1 => rfl
  | case2 b h => cases negative <;> simp [withSign, h, numberMagnitude, leNat]
  | case3 b h =>
    have hb : b.toNat < 128 := by
      rw [and_top] at h
      omega
    cases negative
    · simp [withSign, not_not.mp h, numberMagnitude, leNat, Nat.mod_eq_of_lt hb]
    · simp [withSign, not_not.mp h, numberMagnitude, leNat, toNat_or_top hb, Nat.mod_eq_of_lt hb]
  | case4 b c bytes ih =>
    obtain ⟨d, ds, hd⟩ := withSign_cons negative c bytes
    rw [withSign, hd, numberMagnitude, ← hd, ih]
    rfl

lemma numberNegative_withSign (negative : Bool) {bytes : List UInt8} (h : bytes ≠ []) :
    numberNegative (withSign negative bytes) = negative := by
  induction bytes using withSign.induct with
  | case1 => exact absurd rfl h
  | case2 b hb => cases negative <;> simp [withSign, hb, numberNegative]
  | case3 b hb =>
    have hlt : b.toNat < 128 := by
      rw [and_top] at hb
      omega
    cases negative
    · simp [withSign, not_not.mp hb, numberNegative, hlt]
    · simp [withSign, not_not.mp hb, numberNegative, toNat_or_top hlt]
  | case4 b c bytes ih =>
    obtain ⟨d, ds, hd⟩ := withSign_cons negative c bytes
    rw [withSign, hd, numberNegative_cons, ← hd]
    exact ih (by simp)

lemma magnitude_eq_nil {n : ℕ} : magnitude n = [] ↔ n = 0 := by
  constructor
  · intro h
    have hn := leNat_magnitude n
    rw [h] at hn
    exact hn.symm
  · rintro rfl
    exact magnitude_zero

lemma numberValue_numberBytes (n : ℤ) : numberValue (numberBytes n) = n := by
  rw [numberValue, numberBytes, numberMagnitude_withSign, leNat_magnitude]
  by_cases h0 : n.natAbs = 0
  · obtain rfl := Int.natAbs_eq_zero.mp h0
    simp [magnitude_zero, withSign, numberNegative]
  · rw [numberNegative_withSign _ (mt magnitude_eq_nil.mp h0)]
    by_cases hn : n < 0
    · rw [if_pos (decide_eq_true hn)]
      omega
    · rw [if_neg (by simpa using hn)]
      omega

/-- The last byte of a magnitude is not zero, so a number with its sign is as long as it has to
be. -/
lemma length_withSign_magnitude (negative : Bool) {n : ℕ} (h : 0 < n) :
    128 * 256^((withSign negative (magnitude n)).length-1) ≤ 256 * n := by
  induction n using Nat.strong_induction_on with
  | _ n ih =>
    have hb : (UInt8.ofNat (n % 256)).toNat = n % 256 := by
      rw [UInt8.toNat_ofNat']
      exact Nat.mod_eq_of_lt (Nat.mod_lt _ (by norm_num))
    rcases Nat.eq_zero_or_pos (n/256) with hzero | hpos
    · rw [magnitude_of_pos h, hzero, magnitude_zero, withSign]
      have hn : n % 256 = n := Nat.mod_eq_of_lt (by omega)
      by_cases htop : UInt8.ofNat (n % 256) &&& 0x80 ≠ 0
      · rw [if_pos htop]
        rw [and_top, hb, hn] at htop
        simp only [List.length_cons, List.length_nil]
        omega
      · rw [if_neg htop]
        simp only [List.length_cons, List.length_nil]
        omega
    · have hlen := ih (n/256) (by omega) hpos
      obtain ⟨c, cs, hc⟩ := List.exists_cons_of_ne_nil (mt magnitude_eq_nil.mp hpos.ne')
      obtain ⟨d, ds, hd⟩ := withSign_cons negative c cs
      rw [magnitude_of_pos h, hc, withSign]
      rw [hc, hd, List.length_cons, Nat.add_sub_cancel] at hlen
      rw [hd, List.length_cons, List.length_cons, Nat.add_sub_cancel, pow_succ]
      omega

lemma numberMagnitude_lt (bytes : List UInt8) :
    numberMagnitude bytes < 128 * 256^(bytes.length-1) := by
  induction bytes using numberMagnitude.induct with
  | case1 => simp [numberMagnitude]
  | case2 b =>
    rw [numberMagnitude]
    exact Nat.mod_lt _ (by norm_num)
  | case3 b c bytes ih =>
    have hb := b.toNat_lt
    rw [List.length_cons, Nat.add_sub_cancel] at ih
    rw [numberMagnitude, List.length_cons, List.length_cons, Nat.add_sub_cancel, pow_succ]
    omega

/-- Sign and magnitude leave no choice for a byte string of given length. -/
lemma bytes_eq_of_numberMagnitude {x y : List UInt8} (hlen : x.length = y.length)
    (hsign : numberNegative x = numberNegative y) (hmag : numberMagnitude x = numberMagnitude y) :
    x = y := by
  induction x using numberMagnitude.induct generalizing y with
  | case1 => exact (List.length_eq_zero_iff.mp hlen.symm).symm
  | case2 b =>
    obtain ⟨c, rfl⟩ := List.length_eq_one_iff.mp hlen.symm
    have hb := b.toNat_lt
    have hc := c.toNat_lt
    simp only [numberNegative, List.getLast?_singleton, Option.any_some, decide_eq_decide] at hsign
    simp only [numberMagnitude] at hmag
    rw [UInt8.toNat_inj.mp (show b.toNat = c.toNat by omega)]
  | case3 b c bytes ih =>
    obtain ⟨b', c', bytes', rfl⟩ : ∃ b' c' bytes', y = b' :: c' :: bytes' := by
      match y, hlen with
      | b' :: c' :: bytes', _ => exact ⟨b', c', bytes', rfl⟩
    have hb := b.toNat_lt
    have hb' := b'.toNat_lt
    rw [numberNegative_cons, numberNegative_cons] at hsign
    simp only [numberMagnitude] at hmag
    have hhead : b = b' := UInt8.toNat_inj.mp (by omega)
    rw [hhead, ih (by simpa using hlen) hsign (by omega)]

lemma natAbs_numberValue (bytes : List UInt8) :
    (numberValue bytes).natAbs = numberMagnitude bytes := by
  rw [numberValue]
  split_ifs <;> omega

lemma numberNegative_eq {bytes : List UInt8} (h : numberValue bytes ≠ 0) :
    numberNegative bytes = decide (numberValue bytes < 0) := by
  rw [numberValue] at h ⊢
  cases hneg : numberNegative bytes with
  | false => simp
  | true =>
    simp only [hneg, if_true, ne_eq, neg_eq_zero] at h
    simp only [if_true, true_eq_decide_iff]
    omega

theorem numberBytes_minimal (n : ℤ) : IsMinimalNumber (numberBytes n) n := by
  refine ⟨numberValue_numberBytes n, fun other hother => ?_⟩
  by_cases h0 : n = 0
  · subst h0
    cases other with
    | nil => exact .inl rfl
    | cons b bytes => exact .inr (Nat.succ_pos _)
  · rcases lt_trichotomy other.length (numberBytes n).length with hlt | heq | hgt
    · -- A shorter string cannot hold the magnitude.
      have hmag : numberMagnitude other = n.natAbs := by rw [← natAbs_numberValue, hother]
      have hsmall := numberMagnitude_lt other
      have hneed : 128 * 256^((numberBytes n).length-1) ≤ 256 * n.natAbs :=
        length_withSign_magnitude _ (Int.natAbs_pos.mpr h0)
      have hne : other.length ≠ 0 := by
        intro hzero
        rw [List.length_eq_zero_iff.mp hzero] at hmag
        exact h0 (Int.natAbs_eq_zero.mp hmag.symm)
      have hpow : 256 * 256^(other.length-1) ≤ 256^((numberBytes n).length-1) := by
        rw [← pow_succ']
        exact Nat.pow_le_pow_right (by norm_num) (by omega)
      omega
    · refine .inl (bytes_eq_of_numberMagnitude heq ?_ ?_)
      · rw [numberNegative_eq (by rwa [hother]), numberNegative_eq
          (by rwa [numberValue_numberBytes]), hother, numberValue_numberBytes]
      · rw [← natAbs_numberValue, ← natAbs_numberValue, hother, numberValue_numberBytes]
    · exact .inr hgt

end Numbers
end RgkProtocol.ScriptParser
