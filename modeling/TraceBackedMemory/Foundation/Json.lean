import TraceBackedMemory.Foundation.Decimal
import Mathlib.Data.List.Forall2
import Mathlib.Tactic.IntervalCases

structure Double where
  bits : BitVec 64
  deriving DecidableEq

namespace Double

def exponent (x : Double) : Nat := x.bits.toNat / 2 ^ 52 % 2 ^ 11

def fraction (x : Double) : Nat := x.bits.toNat % 2 ^ 52

def negative (x : Double) : Bool := decide (2 ^ 63 ≤ x.bits.toNat)

def isFinite (x : Double) : Bool := decide (x.exponent ≠ 2047)

def isNan (x : Double) : Bool := decide (x.exponent = 2047 ∧ x.fraction ≠ 0)

def magnitude (x : Double) : Nat :=
  if x.exponent = 0 then x.fraction else (2 ^ 52 + x.fraction) * 2 ^ (x.exponent - 1)

def scaled (x : Double) : Int := if x.negative then -(x.magnitude : Int) else x.magnitude

def one : Double := ⟨0x3FF0000000000000#64⟩

end Double

inductive Number where
  | int (n : Int)
  | float (x : Double)
  deriving DecidableEq

namespace Number

def scaled : Number → Int
  | .int n => n * 2 ^ 1074
  | .float x => x.scaled

def isFinite : Number → Bool
  | .int _ => true
  | .float x => x.isFinite

def isNan : Number → Bool
  | .int _ => false
  | .float x => x.isNan

def infinity : Number → Option Bool
  | .int _ => none
  | .float x => if x.isFinite ∨ x.isNan then none else some x.negative

def le (a b : Number) : Bool := decide (a.scaled ≤ b.scaled)

def lt (a b : Number) : Bool := decide (a.scaled < b.scaled)

def eq (a b : Number) : Bool :=
  !a.isNan && !b.isNan && a.infinity == b.infinity &&
    (a.infinity.isSome || decide (a.scaled = b.scaled))

def zero : Number := .float ⟨0#64⟩

def one : Number := .float Double.one

end Number

open Text

inductive Json where
  | null
  | bool (b : Bool)
  | num (n : Number)
  | str (s : Str)
  | arr (items : List Json)
  | obj (fields : List (Str × Json))

namespace Json

def ofBool (b : Bool) : Number := .int (if b then 1 else 0)

def number? : Json → Option Number
  | .bool b => some (ofBool b)
  | .num n => some n
  | _ => none

mutual

def pyEq : Json → Json → Bool
  | .null, .null => true
  | .str s, .str t => decide (s = t)
  | .arr l, .arr m => pyEqItems l m
  | .obj l, .obj m => decide (l.length = m.length) && pyEqFields l m
  | a, b =>
    match number? a, number? b with
    | some x, some y => x.eq y
    | _, _ => false

def pyEqItems : List Json → List Json → Bool
  | [], [] => true
  | a :: l, b :: m => pyEq a b && pyEqItems l m
  | _, _ => false

def pyEqFields : List (Str × Json) → List (Str × Json) → Bool
  | [], _ => true
  | (k, v) :: l, m =>
    (match m.find? (fun p => decide (p.1 = k)) with
      | some p => pyEq v p.2
      | none => false) && pyEqFields l m

end

mutual

def decEq : (a b : Json) → Decidable (a = b)
  | .null, .null => isTrue rfl
  | .bool a, .bool b => decidable_of_iff (a = b) (by simp)
  | .num a, .num b => decidable_of_iff (a = b) (by simp)
  | .str a, .str b => decidable_of_iff (a = b) (by simp)
  | .arr l, .arr m => @decidable_of_iff _ (l = m) (by simp) (decEqItems l m)
  | .obj l, .obj m => @decidable_of_iff _ (l = m) (by simp) (decEqFields l m)
  | .null, .bool _ | .null, .num _ | .null, .str _ | .null, .arr _ | .null, .obj _
  | .bool _, .null | .bool _, .num _ | .bool _, .str _ | .bool _, .arr _ | .bool _, .obj _
  | .num _, .null | .num _, .bool _ | .num _, .str _ | .num _, .arr _ | .num _, .obj _
  | .str _, .null | .str _, .bool _ | .str _, .num _ | .str _, .arr _ | .str _, .obj _
  | .arr _, .null | .arr _, .bool _ | .arr _, .num _ | .arr _, .str _ | .arr _, .obj _
  | .obj _, .null | .obj _, .bool _ | .obj _, .num _ | .obj _, .str _ | .obj _, .arr _ =>
    isFalse nofun

def decEqItems : (l m : List Json) → Decidable (l = m)
  | [], [] => isTrue rfl
  | [], _ :: _ | _ :: _, [] => isFalse nofun
  | a :: l, b :: m =>
    @decidable_of_iff _ (a = b ∧ l = m) (by simp) (@instDecidableAnd _ _ (decEq a b) (decEqItems l m))

def decEqFields : (l m : List (Str × Json)) → Decidable (l = m)
  | [], [] => isTrue rfl
  | [], _ :: _ | _ :: _, [] => isFalse nofun
  | (j, a) :: l, (k, b) :: m =>
    @decidable_of_iff _ (j = k ∧ a = b ∧ l = m) (by simp [and_assoc])
      (@instDecidableAnd _ _ inferInstance (@instDecidableAnd _ _ (decEq a b) (decEqFields l m)))

end

instance : DecidableEq Json := decEq

def field? (k : Str) (fields : List (Str × Json)) : Option Json :=
  (fields.find? (fun p => decide (p.1 = k))).map Prod.snd

end Json

namespace Text

def isSurrogate (c : CodePoint) : Bool := decide (0xD800 ≤ c.val ∧ c.val < 0xE000)

def isHighSurrogate (c : CodePoint) : Bool := decide (0xD800 ≤ c.val ∧ c.val < 0xDC00)

def isLowSurrogate (c : CodePoint) : Bool := decide (0xDC00 ≤ c.val ∧ c.val < 0xE000)

def utf8Length (c : CodePoint) : Nat :=
  if c.val < 0x80 then 1 else if c.val < 0x800 then 2 else if c.val < 0x10000 then 3 else 4

def encodedBytes (s : Str) : Option Nat :=
  if s.any isSurrogate then none else some ((s.map utf8Length).sum)

end Text
