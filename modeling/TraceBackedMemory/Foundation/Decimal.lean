import TraceBackedMemory.Foundation.Text
import Mathlib.Tactic.Linarith

namespace Text

def decimalZeros : List Nat :=
  [48, 1632, 1776, 1984, 2406, 2534, 2662, 2790, 2918, 3046, 3174, 3302, 3430, 3558, 3664, 3792,
    3872, 4160, 4240, 6112, 6160, 6470, 6608, 6784, 6800, 6992, 7088, 7232, 7248, 42528, 43216,
    43264, 43472, 43504, 43600, 44016, 65296, 66720, 68912, 69734, 69872, 69942, 70096, 70384,
    70736, 70864, 71248, 71360, 71472, 71904, 72016, 72784, 73040, 73120, 92768, 92864, 93008,
    120782, 120792, 120802, 120812, 120822, 123200, 123632, 125264, 130032]

def digitValue? (c : CodePoint) : Option Nat :=
  (decimalZeros.find? (fun z => decide (z ≤ c.val ∧ c.val < z + 10))).map (c.val - ·)

def accumulateDigits (acc : Nat) : Str → Option Nat
  | [] => some acc
  | c :: s =>
    match digitValue? c with
    | none => none
    | some d => accumulateDigits (acc * 10 + d) s

def parseDigits (s : Str) : Option Nat :=
  if s.isEmpty then none else accumulateDigits 0 s

def decimal (n : Nat) : Str := (Nat.toDigits 10 n).map cp

def decimalInt (n : Int) : Str :=
  if n < 0 then lit "-" ++ decimal n.natAbs else decimal n.natAbs

def padded (width n : Nat) : Str :=
  List.replicate (width - (decimal n).length) (cp '0') ++ decimal n

theorem digitValue_cp {c : Char} (h : c.isDigit = true) :
    digitValue? (cp c) = some (c.toNat - '0'.toNat) := by
  have hc : 48 ≤ c.toNat ∧ c.toNat ≤ 57 := Char.isDigit_iff_toNat.mp h
  have hv : (cp c).val = c.toNat := by
    simp only [cp, Fin.ofNat]
    exact Nat.mod_eq_of_lt (by omega)
  have hin : 48 ≤ (cp c).val ∧ (cp c).val < 48 + 10 := by omega
  have hf : decimalZeros.find? (fun z => decide (z ≤ (cp c).val ∧ (cp c).val < z + 10)) =
      some 48 := List.find?_cons_of_pos (by simpa using hin)
  rw [digitValue?, hf, Option.map_some, hv]
  rfl

theorem accumulateDigits_map {l : List Char} (h : ∀ c ∈ l, c.isDigit = true) (acc : Nat) :
    accumulateDigits acc (l.map cp) = some (Nat.ofDigitChars 10 l acc) := by
  induction l generalizing acc with
  | nil => simp [accumulateDigits]
  | cons c l ih =>
    have hc := digitValue_cp (h c (by simp))
    simp only [List.map_cons, accumulateDigits, hc, Nat.ofDigitChars_cons]
    rw [ih (fun d hd => h d (by simp [hd])), Nat.mul_comm]

theorem decimal_ne_nil (n : Nat) : decimal n ≠ [] := by
  simp [decimal, Nat.toDigits_ne_nil]

theorem padded_eq (width n : Nat) :
    padded width n =
      (List.replicate (width - (decimal n).length) '0' ++ Nat.toDigits 10 n).map cp := by
  simp [padded, decimal]

theorem padded_ne_nil (width n : Nat) : padded width n ≠ [] := by
  simp [padded, decimal_ne_nil]

theorem accumulateDigits_padded (width n : Nat) :
    accumulateDigits 0 (padded width n) = some n := by
  rw [padded_eq, accumulateDigits_map, Nat.ofDigitChars_append,
    Nat.ofDigitChars_replicate_zero, Nat.mul_zero, Nat.ofDigitChars_ten_toDigits]
  intro c hc
  rcases List.mem_append.mp hc with hc | hc
  · rw [List.eq_of_mem_replicate hc]
    rfl
  · exact Nat.isDigit_of_mem_toDigits (by omega) (by omega) hc

@[simp] theorem parseDigits_padded (width n : Nat) : parseDigits (padded width n) = some n := by
  simp [parseDigits, padded_ne_nil, accumulateDigits_padded]

theorem padded_injective (width : Nat) : Function.Injective (padded width) := by
  intro a b h
  have := congrArg parseDigits h
  simpa using this

theorem length_decimal_le_iff {n k : Nat} (hk : 0 < k) : (decimal n).length ≤ k ↔ n < 10 ^ k := by
  simp [decimal, Nat.length_toDigits_le_iff (b := 10) (by omega) hk]

theorem length_padded (width n : Nat) :
    (padded width n).length = max width (decimal n).length := by
  simp only [padded, List.length_append, List.length_replicate]
  omega

theorem length_padded_le_iff {width n k : Nat} (hw : width ≤ k) (hk : 0 < k) :
    (padded width n).length ≤ k ↔ n < 10 ^ k := by
  rw [length_padded, ← length_decimal_le_iff hk]
  omega

end Text
