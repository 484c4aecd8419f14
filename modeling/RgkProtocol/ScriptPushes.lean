import RgkProtocol.CovenantScript
import RgkProtocol.ScriptParser

/-!
# Pushes on 64-bit words

The emitter of a number push as it runs on a 64-bit word, with the wrapping negation, and what a
parser of scripts reads from the emitted bytes: one operation with the bytes of the number in
their only shortest form, or with the data in the shortest of the four data forms.
-/
namespace RgkProtocol.ScriptPushes
open ByteStrings CovenantScript ScriptMachine ScriptParser

section Words

/-- The magnitude as an unsigned word. The negation wraps, so the least number keeps its bits. -/
def wordMagnitude (n : Int64) : UInt64 := if n < 0 then (-n).toUInt64 else n.toUInt64

/-- The number push as it is emitted for a 64-bit word. -/
def pushScriptWord (n : Int64) : List UInt8 :=
  if n = 0 then [0x00]
  else if n = -1 then [0x4f]
  else if 1 ≤ n ∧ n ≤ 16 then [0x50 + n.toUInt64.toUInt8]
  else pushData (signBytes (decide (n < 0)) (lowBytes 8 (wordMagnitude n).toNat))

lemma toInt_eq_cond (n : Int64) :
    n.toInt = if n.toUInt64.toNat < 2^63 then (n.toUInt64.toNat : ℤ)
      else n.toUInt64.toNat - 2^64 := by
  have h := BitVec.toInt_eq_toNat_cond n.toBitVec
  change n.toInt = if 2 * n.toUInt64.toNat < 2^64 then (n.toUInt64.toNat : ℤ) else _ at h
  rw [h]
  split_ifs <;> first | rfl | omega

lemma toNat_neg_word (n : Int64) : (-n).toUInt64.toNat = (2^64 - n.toUInt64.toNat) % 2^64 := by
  have h := BitVec.toNat_neg n.toBitVec
  rwa [← Int64.toBitVec_neg] at h

lemma toNat_wordMagnitude (n : Int64) : (wordMagnitude n).toNat = n.toInt.natAbs := by
  have hcond := toInt_eq_cond n
  have hlt := n.toUInt64.toNat_lt
  have hneg : n < 0 ↔ n.toInt < 0 := by rw [Int64.lt_iff_toInt_lt, Int64.toInt_zero]
  rw [wordMagnitude]
  by_cases h : n < 0
  · rw [if_pos h, toNat_neg_word]
    have := hneg.mp h
    split_ifs at hcond <;> omega
  · rw [if_neg h]
    have := mt hneg.mpr h
    split_ifs at hcond <;> omega

lemma pushScriptWord_eq (n : Int64) : pushScriptWord n = pushScriptI64 n.toInt := by
  have h0 : n = 0 ↔ n.toInt = 0 := by rw [← Int64.toInt_inj, Int64.toInt_zero]
  have h1 : n = -1 ↔ n.toInt = -1 := by rw [← Int64.toInt_inj]; rfl
  have hlo : (1 : Int64) ≤ n ↔ 1 ≤ n.toInt := Int64.le_iff_toInt_le
  have hhi : n ≤ 16 ↔ n.toInt ≤ 16 := Int64.le_iff_toInt_le
  have hneg : n < 0 ↔ n.toInt < 0 := by rw [Int64.lt_iff_toInt_lt, Int64.toInt_zero]
  simp only [pushScriptWord, pushScriptI64, h0, h1, hlo, hhi, hneg, toNat_wordMagnitude]
  by_cases hsmall : 1 ≤ n.toInt ∧ n.toInt ≤ 16
  · have hcond := toInt_eq_cond n
    have hlt := n.toUInt64.toNat_lt
    have hbyte : (0x50 + n.toUInt64.toUInt8 : UInt8) = UInt8.ofNat (0x50 + n.toInt.toNat) := by
      apply UInt8.toNat_inj.mp
      rw [UInt8.toNat_add, UInt64.toNat_toUInt8, UInt8.toNat_ofNat']
      change (80 + _) % _ = _
      split_ifs at hcond <;> omega
    rw [hbyte]
  · rw [if_neg hsmall, if_neg hsmall]

end Words

section Pushes

/-- One push in a data form, and every other such push of the same data is longer. -/
def IsShortestPush (code data : List UInt8) : Prop :=
  ∃ form, form ≠ .constant ∧ parse code = some [.push form data] ∧
    ∀ other form', form' ≠ .constant → parse other = some [.push form' data] →
      other = code ∨ code.length < other.length

/-- `push_data` takes the form with the fewest bytes before the data. -/
lemma dataPush_pushData {data : List UInt8} (h : data.length < 2^32) :
    ∃ form, dataPush form data = some (pushData data) ∧
      ∀ form', form' ≠ .constant → data.length ≤ form'.capacity →
        form' = form ∨ form.overhead < form'.overhead := by
  simp only [pushData]
  split_ifs with h1 h2 h3
  · refine ⟨.direct, directPush_eq_some.mpr ⟨by omega, rfl⟩, fun form' hne _ => ?_⟩
    cases form' <;> simp [PushForm.overhead] at hne ⊢
  · refine ⟨.pushData1, sizedPush_eq_some.mpr ⟨by omega, rfl⟩, fun form' hne hcap => ?_⟩
    cases form' <;> simp [PushForm.overhead, PushForm.capacity] at hne hcap ⊢
    all_goals omega
  · refine ⟨.pushData2, sizedPush_eq_some.mpr ⟨by omega, rfl⟩, fun form' hne hcap => ?_⟩
    cases form' <;> simp [PushForm.overhead, PushForm.capacity] at hne hcap ⊢
    all_goals omega
  · refine ⟨.pushData4, sizedPush_eq_some.mpr ⟨by omega, rfl⟩, fun form' hne hcap => ?_⟩
    cases form' <;> simp [PushForm.overhead, PushForm.capacity] at hne hcap ⊢
    all_goals omega

lemma pushData_shortest {data : List UInt8} (h : data.length < 2^32) :
    IsShortestPush (pushData data) data := by
  obtain ⟨form, hpush, hleast⟩ := dataPush_pushData h
  have hform : form ≠ .constant := by
    rintro rfl
    cases hpush
  refine ⟨form, hform, (parse_eq_dataPush hform).mpr hpush, fun other form' hform' hother => ?_⟩
  rw [parse_eq_dataPush hform'] at hother
  have hlen := length_dataPush hpush
  have hlen' := length_dataPush hother
  rcases hleast form' hform' hlen'.2 with rfl | hlt
  · exact .inl (Option.some.inj (hother.symm.trans hpush))
  · exact .inr (by omega)

/-- The small numbers have opcodes of their own; all others are data. -/
lemma parse_pushScriptI64 {n : ℤ} (h : n.natAbs < 2^64) :
    ∃ form, parse (pushScriptI64 n) = some [.push form (numberBytes n)] := by
  rw [pushScriptI64]
  split_ifs with h0 h1 h16
  · subst h0
    exact ⟨.direct, parse_eq_singleton.mpr rfl⟩
  · subst h1
    exact ⟨.constant, parse_eq_singleton.mpr rfl⟩
  · obtain ⟨k, rfl⟩ := Int.eq_ofNat_of_zero_le (show 0 ≤ n by omega)
    refine ⟨.constant, parse_eq_singleton.mpr ?_⟩
    obtain ⟨hlo, hhi⟩ : 1 ≤ k ∧ k ≤ 16 := by omega
    interval_cases k <;> rfl
  · have hbytes := signBytes_lowBytes h
    have hlen : (signBytes (decide (n < 0)) (lowBytes 8 n.natAbs)).length < 2^32 := by
      have := length_signBytes (decide (n < 0)) (lowBytes 8 n.natAbs)
      have := length_lowBytes 8 n.natAbs
      omega
    obtain ⟨form, -, hparse, -⟩ := pushData_shortest hlen
    rw [hbytes] at hparse ⊢
    exact ⟨form, hparse⟩

section Machine
variable {ops : UInt8 → Option Operator}

lemma yields_pushData {data : List UInt8} (h : data.length < 2^32) :
    Yields ops (pushData data) (some data) := by
  obtain ⟨form, -, hparse, -⟩ := pushData_shortest h
  exact yields_of_parse hparse

lemma yields_pushScriptI64 {n : ℤ} (h : n.natAbs < 2^64) :
    Yields ops (pushScriptI64 n) (some (numberBytes n)) := by
  obtain ⟨form, hparse⟩ := parse_pushScriptI64 h
  exact yields_of_parse hparse

/-- The payload length needs a second byte, for the sign. -/
example : pushScriptI64 148 = [0x02, 0x94, 0x00] := by decide

lemma yields_pushNat {n : ℕ} (h : n < 2^64) :
    Yields ops (pushScriptI64 n) (some (numberBytes n)) :=
  yields_pushScriptI64 (by simpa using h)

end Machine

/-- Appended to any script, a number push adds one push of the only shortest bytes of its number,
and a data push adds one push of its data in the shortest data form. -/
theorem script_pushes_minimal (n : Int64) (data : List UInt8) (hdata : data.length < 2^32) :
    (∃ form bytes, IsMinimalNumber bytes n.toInt ∧ ∀ out ops, parse out = some ops →
      parse (out ++ pushScriptWord n) = some (ops ++ [.push form bytes])) ∧
    IsShortestPush (pushData data) data ∧
    ∃ form, ∀ out ops, parse out = some ops →
      parse (out ++ pushData data) = some (ops ++ [.push form data]) := by
  have hn : n.toInt.natAbs < 2^64 := by
    rw [← toNat_wordMagnitude]
    exact (wordMagnitude n).toNat_lt
  refine ⟨?_, pushData_shortest hdata, ?_⟩
  · obtain ⟨form, hparse⟩ := parse_pushScriptI64 hn
    refine ⟨form, numberBytes n.toInt, numberBytes_minimal n.toInt, fun out ops hout => ?_⟩
    rw [pushScriptWord_eq]
    exact parse_append hout hparse
  · obtain ⟨form, -, hparse, -⟩ := pushData_shortest hdata
    exact ⟨form, fun out ops hout => parse_append hout hparse⟩

theorem script_pushes_minimal_least :
    (∃ form bytes, IsMinimalNumber bytes (-2^63) ∧ ∀ out ops, parse out = some ops →
      parse (out ++ pushScriptWord Int64.minValue) = some (ops ++ [.push form bytes])) ∧
    IsShortestPush (pushData [0x07]) [0x07] ∧
    ∃ form, ∀ out ops, parse out = some ops →
      parse (out ++ pushData [0x07]) = some (ops ++ [.push form [0x07]]) :=
  script_pushes_minimal Int64.minValue [0x07] (by decide)

end Pushes
end RgkProtocol.ScriptPushes
