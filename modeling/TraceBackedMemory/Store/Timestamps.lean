import TraceBackedMemory.Store.Records
import TraceBackedMemory.Foundation.Raising

namespace TraceBackedMemory

open Text Raising

def asciiDigit? (c : CodePoint) : Option Nat :=
  if 48 ≤ c.val ∧ c.val ≤ 57 then some (c.val - 48) else none

def asciiNumber? : Str → Option Nat
  | [] => some 0
  | s => s.foldl (fun acc c => match acc, asciiDigit? c with
      | some n, some d => some (n * 10 + d)
      | _, _ => none) (some 0)

def isLeapYear (y : Nat) : Bool := decide (y % 4 = 0 ∧ (y % 100 ≠ 0 ∨ y % 400 = 0))

def daysInMonth (y m : Nat) : Nat :=
  if m = 2 then (if isLeapYear y then 29 else 28)
  else if m = 4 ∨ m = 6 ∨ m = 9 ∨ m = 11 then 30
  else 31

def validDate (y m d : Nat) : Bool :=
  decide (1 ≤ y ∧ 1 ≤ m ∧ m ≤ 12 ∧ 1 ≤ d ∧ d ≤ daysInMonth y m)

def validTime (h m s : Nat) : Bool := decide (h ≤ 23 ∧ m ≤ 59 ∧ s ≤ 59)

def validZone (s : Str) : Bool :=
  match s with
  | [z] => decide (z = cp 'Z')
  | [sign, h₁, h₂, colon, m₁, m₂] =>
    decide (sign = cp '+' ∨ sign = cp '-') && decide (colon = cp ':') &&
      match asciiNumber? [h₁, h₂], asciiNumber? [m₁, m₂] with
      | some h, some m => decide (h * 60 + m < 24 * 60)
      | _, _ => false
  | _ => false

def validFractionAndZone (s : Str) : Bool :=
  match s with
  | [] => false
  | c :: rest =>
    if c = cp '.' then
      let digits := rest.takeWhile (fun d => (asciiDigit? d).isSome)
      decide (1 ≤ digits.length ∧ digits.length ≤ 6) &&
        validZone (rest.dropWhile (fun d => (asciiDigit? d).isSome))
    else validZone s

def isRfc3339 (s : Str) : Bool :=
  match s with
  | y₁ :: y₂ :: y₃ :: y₄ :: s₁ :: m₁ :: m₂ :: s₂ :: d₁ :: d₂ :: t :: h₁ :: h₂ :: c₁ :: n₁ :: n₂ ::
      c₂ :: e₁ :: e₂ :: rest =>
    decide (s₁ = cp '-' ∧ s₂ = cp '-' ∧ t = cp 'T' ∧ c₁ = cp ':' ∧ c₂ = cp ':') &&
      (match asciiNumber? [y₁, y₂, y₃, y₄], asciiNumber? [m₁, m₂], asciiNumber? [d₁, d₂] with
        | some y, some m, some d => validDate y m d
        | _, _, _ => false) &&
      (match asciiNumber? [h₁, h₂], asciiNumber? [n₁, n₂], asciiNumber? [e₁, e₂] with
        | some h, some n, some e => validTime h n e
        | _, _, _ => false) &&
      validFractionAndZone rest
  | _ => false

def parseRfc3339 (s : Str) : Except Exn Unit :=
  raiseIf (isRfc3339 s = false)
    (valueError "value must be a timezone-aware RFC 3339 date-time string")

def daysBeforeYear (y : Nat) : Nat := (y - 1) * 365 + (y - 1) / 4 - (y - 1) / 100 + (y - 1) / 400

def daysBeforeMonth (y m : Nat) : Nat :=
  ((List.range (m - 1)).map (fun i => daysInMonth y (i + 1))).sum

def fractionDigits (s : Str) : Str :=
  match s with
  | [] => []
  | c :: rest => if c = cp '.' then rest.takeWhile (fun d => (asciiDigit? d).isSome) else []

def zoneMinutes (s : Str) : Int :=
  match s with
  | [sign, h₁, h₂, _, m₁, m₂] =>
    let minutes := (asciiNumber? [h₁, h₂]).getD 0 * 60 + (asciiNumber? [m₁, m₂]).getD 0
    if sign = cp '-' then -(minutes : Int) else minutes
  | _ => 0

def instant? (s : Str) : Option Int :=
  if isRfc3339 s then
    let number := fun l : Str => (asciiNumber? l).getD 0
    let y := number (s.take 4)
    let m := number ((s.drop 5).take 2)
    let d := number ((s.drop 8).take 2)
    let h := number ((s.drop 11).take 2)
    let n := number ((s.drop 14).take 2)
    let e := number ((s.drop 17).take 2)
    let digits := fractionDigits (s.drop 19)
    let zone := if digits = [] then s.drop 19 else s.drop (20 + digits.length)
    let days := daysBeforeYear y + daysBeforeMonth y m + (d - 1)
    let seconds := days * 86400 + h * 3600 + n * 60 + e
    let micros := number digits * 10 ^ (6 - digits.length)
    some ((seconds * 1000000 + micros : Nat) - zoneMinutes zone * 60000000)
  else none

example : instant? (lit "0001-01-02T00:00:00.5+00:30") = some ((86400 - 1800) * 1000000 + 500000) := by
  decide

example : isRfc3339 (lit "2024-02-29T23:59:59.123456+05:99") = true := by decide

end TraceBackedMemory
