import TraceBackedMemory.Store.Timestamps
import Mathlib.Tactic.IntervalCases

namespace TraceBackedMemory

open Text Raising

section Civil

def civilYear (days : Nat) : Nat :=
  let centuries := min (days % 146097 / 36524) 3
  let rest := days % 146097 - centuries * 36524
  400 * (days / 146097) + 100 * centuries + 4 * (rest / 1461) + min (rest % 1461 / 365) 3 + 1

def leapDay (y : Nat) : Nat := if isLeapYear y then 1 else 0

def civilMonth (l day : Nat) : Nat :=
  if day < 31 then 1
  else if day < 59 + l then 2
  else if day < 90 + l then 3
  else if day < 120 + l then 4
  else if day < 151 + l then 5
  else if day < 181 + l then 6
  else if day < 212 + l then 7
  else if day < 243 + l then 8
  else if day < 273 + l then 9
  else if day < 304 + l then 10
  else if day < 334 + l then 11
  else 12

theorem daysBeforeYear_cycle {a b c e : Nat} (hb : b ≤ 3) (hc : c ≤ 24) (he : e ≤ 3) :
    daysBeforeYear (400 * a + 100 * b + 4 * c + e + 1) = 146097 * a + 36524 * b + 1461 * c + 365 * e := by
  have h₁ : (400 * a + 100 * b + 4 * c + e) / 4 = 100 * a + 25 * b + c := by omega
  have h₂ : (400 * a + 100 * b + 4 * c + e) / 100 = 4 * a + b := by omega
  have h₃ : (400 * a + 100 * b + 4 * c + e) / 400 = a := by omega
  simp only [daysBeforeYear, Nat.add_sub_cancel, h₁, h₂, h₃]
  omega

theorem leapDay_cycle {a b c e : Nat} (hb : b ≤ 3) (hc : c ≤ 24) (he : e ≤ 3) :
    leapDay (400 * a + 100 * b + 4 * c + e + 1) =
      if e = 3 ∧ (c ≠ 24 ∨ b = 3) then 1 else 0 := by
  have h₁ : (400 * a + 100 * b + 4 * c + e + 1) % 4 = 0 ↔ e = 3 := by omega
  have h₂ : (400 * a + 100 * b + 4 * c + e + 1) % 100 = 0 ↔ c = 24 ∧ e = 3 := by omega
  have h₃ : (400 * a + 100 * b + 4 * c + e + 1) % 400 = 0 ↔ b = 3 ∧ c = 24 ∧ e = 3 := by omega
  simp only [leapDay, isLeapYear, decide_eq_true_eq, ne_eq, h₁, h₂, h₃]
  split_ifs <;> omega

theorem civilYear_bounds (days : Nat) :
    daysBeforeYear (civilYear days) ≤ days ∧
      days < daysBeforeYear (civilYear days) + 365 + leapDay (civilYear days) := by
  obtain ⟨a, r, hdays, hr⟩ : ∃ a r, days = 146097 * a + r ∧ r < 146097 :=
    ⟨days / 146097, days % 146097, by omega, by omega⟩
  have ha : days / 146097 = a := by omega
  have hmod : days % 146097 = r := by omega
  obtain ⟨b, hbeq⟩ : ∃ b, b = min (r / 36524) 3 := ⟨_, rfl⟩
  obtain ⟨q, hqeq⟩ : ∃ q, q = r - b * 36524 := ⟨_, rfl⟩
  obtain ⟨c, hceq⟩ : ∃ c, c = q / 1461 := ⟨_, rfl⟩
  obtain ⟨e, heeq⟩ : ∃ e, e = min (q % 1461 / 365) 3 := ⟨_, rfl⟩
  have hyear : civilYear days = 400 * a + 100 * b + 4 * c + e + 1 := by
    simp only [civilYear, ha, hmod, heeq, hceq, hqeq, hbeq]
  have hb : b ≤ 3 := by omega
  have hq : r = 36524 * b + q := by omega
  have hq₁ : q ≤ 36524 := by omega
  have hq₂ : q = 36524 → b = 3 := by omega
  have hc : c ≤ 24 := by omega
  have he : e ≤ 3 := by omega
  have hq₃ : q = 1461 * c + q % 1461 := by omega
  have hrest : 365 * e ≤ q % 1461 ∧ q % 1461 < 365 * e + 366 ∧ (e < 3 → q % 1461 < 365 * e + 365) := by
    omega
  rw [hyear, daysBeforeYear_cycle hb hc he, leapDay_cycle hb hc he]
  split_ifs <;> omega

theorem civilYear_pos (days : Nat) : 1 ≤ civilYear days := Nat.succ_le_succ (Nat.zero_le _)

theorem daysBeforeYear_succ {y : Nat} (h : 1 ≤ y) :
    daysBeforeYear (y + 1) = daysBeforeYear y + 365 + leapDay y := by
  obtain ⟨a, b, c, e, rfl, hb, hc, he⟩ : ∃ a b c e, y = 400 * a + 100 * b + 4 * c + e + 1 ∧
      b ≤ 3 ∧ c ≤ 24 ∧ e ≤ 3 :=
    ⟨(y - 1) / 400, (y - 1) % 400 / 100, (y - 1) % 100 / 4, (y - 1) % 4, by omega, by omega, by omega,
      by omega⟩
  rw [daysBeforeYear_cycle hb hc he, leapDay_cycle hb hc he]
  by_cases he₃ : e < 3
  · have hnext : 400 * a + 100 * b + 4 * c + e + 1 + 1 = 400 * a + 100 * b + 4 * c + (e + 1) + 1 := by
      omega
    rw [hnext, daysBeforeYear_cycle hb hc (by omega), if_neg (by omega)]
    omega
  have he₃ : e = 3 := by omega
  by_cases hc₂₄ : c < 24
  · have hnext : 400 * a + 100 * b + 4 * c + e + 1 + 1 = 400 * a + 100 * b + 4 * (c + 1) + 0 + 1 := by
      omega
    rw [hnext, @daysBeforeYear_cycle a b (c + 1) 0 (by omega) (by omega) (by omega), if_pos (by omega)]
    omega
  by_cases hb₃ : b < 3
  · have hnext : 400 * a + 100 * b + 4 * c + e + 1 + 1 = 400 * a + 100 * (b + 1) + 4 * 0 + 0 + 1 := by
      omega
    rw [hnext, @daysBeforeYear_cycle a (b + 1) 0 0 (by omega) (by omega) (by omega), if_neg (by omega)]
    omega
  · have hnext : 400 * a + 100 * b + 4 * c + e + 1 + 1 = 400 * (a + 1) + 100 * 0 + 4 * 0 + 0 + 1 := by
      omega
    rw [hnext, @daysBeforeYear_cycle (a + 1) 0 0 0 (by omega) (by omega) (by omega), if_pos (by omega)]
    omega

theorem daysBeforeYear_mono {y z : Nat} (h : y ≤ z) : daysBeforeYear y ≤ daysBeforeYear z := by
  have h₄ : (y - 1) / 4 ≤ (z - 1) / 4 := Nat.div_le_div_right (Nat.sub_le_sub_right h 1)
  have h₁₀₀ : (z - 1) / 100 ≤ (y - 1) / 100 + (z - y) := by omega
  have h₄₀₀ : (y - 1) / 400 ≤ (z - 1) / 400 := Nat.div_le_div_right (Nat.sub_le_sub_right h 1)
  have hless : (y - 1) / 100 ≤ (y - 1) / 4 := by omega
  simp only [daysBeforeYear]
  omega

theorem civilYear_le {days : Nat} (h : days < 3652059) : civilYear days ≤ 9999 := by
  have hbounds := (civilYear_bounds days).1
  by_contra hlarge
  have hmono : daysBeforeYear 10000 ≤ daysBeforeYear (civilYear days) :=
    daysBeforeYear_mono (by omega)
  have hlast : daysBeforeYear 10000 = 3652059 := by decide
  omega

theorem leapDay_le (y : Nat) : leapDay y ≤ 1 := by
  unfold leapDay
  split <;> omega

def monthLength (l m : Nat) : Nat :=
  [31, 28 + l, 31, 30, 31, 30, 31, 31, 30, 31, 30, 31].getD (m - 1) 0

def monthStart (l m : Nat) : Nat :=
  [0, 31, 59 + l, 90 + l, 120 + l, 151 + l, 181 + l, 212 + l, 243 + l, 273 + l, 304 + l,
    334 + l].getD (m - 1) 0

theorem daysInMonth_eq (y : Nat) {m : Nat} (h₁ : 1 ≤ m) (h₂ : m ≤ 12) :
    daysInMonth y m = monthLength (leapDay y) m := by
  cases hleap : isLeapYear y with
  | false => interval_cases m <;> simp [daysInMonth, monthLength, leapDay, hleap]
  | true => interval_cases m <;> simp [daysInMonth, monthLength, leapDay, hleap]

theorem daysBeforeMonth_eq (y : Nat) {m : Nat} (h₁ : 1 ≤ m) (h₂ : m ≤ 12) :
    daysBeforeMonth y m = monthStart (leapDay y) m := by
  have hlengths : (List.range (m - 1)).map (fun i => daysInMonth y (i + 1)) =
      (List.range (m - 1)).map (fun i => monthLength (leapDay y) (i + 1)) := by
    apply List.map_congr_left
    intro i hi
    have := List.mem_range.mp hi
    exact daysInMonth_eq y (by omega) (by omega)
  rw [daysBeforeMonth, hlengths]
  have hl := leapDay_le y
  generalize leapDay y = l at hl
  interval_cases l <;> interval_cases m <;> decide

set_option maxRecDepth 4000 in
theorem monthStart_bounds :
    ∀ l < 2, ∀ day < 365 + l, 1 ≤ civilMonth l day ∧ civilMonth l day ≤ 12 ∧
      monthStart l (civilMonth l day) ≤ day ∧
      day < monthStart l (civilMonth l day) + monthLength l (civilMonth l day) := by
  decide +kernel

theorem civilMonth_bounds {y day : Nat} (h : day < 365 + leapDay y) :
    1 ≤ civilMonth (leapDay y) day ∧ civilMonth (leapDay y) day ≤ 12 ∧
      daysBeforeMonth y (civilMonth (leapDay y) day) ≤ day ∧
      day < daysBeforeMonth y (civilMonth (leapDay y) day) +
        daysInMonth y (civilMonth (leapDay y) day) := by
  have hl := leapDay_le y
  obtain ⟨h₁, h₂, h₃, h₄⟩ := monthStart_bounds (leapDay y) (by omega) day h
  rw [daysBeforeMonth_eq y h₁ h₂, daysInMonth_eq y h₁ h₂]
  exact ⟨h₁, h₂, h₃, h₄⟩

theorem civilYear_mono {a b : Nat} (h : a ≤ b) : civilYear a ≤ civilYear b := by
  by_contra hlt
  have hnext := daysBeforeYear_mono (show civilYear b + 1 ≤ civilYear a by omega)
  rw [daysBeforeYear_succ (civilYear_pos b)] at hnext
  have ha := (civilYear_bounds a).1
  have hb := (civilYear_bounds b).2
  omega

set_option maxRecDepth 4000 in
theorem monthStart_succ (l : Nat) {m : Nat} (h₁ : 1 ≤ m) (h₂ : m < 12) :
    monthStart l m + monthLength l m = monthStart l (m + 1) := by
  interval_cases m <;> simp [monthStart, monthLength] <;> omega

theorem monthStart_next (l : Nat) {m n : Nat} (hm : m < 13) (hn : n < m) (hpos : 1 ≤ n) :
    monthStart l n + monthLength l n ≤ monthStart l m := by
  induction m, hn using Nat.le_induction with
  | base => exact (monthStart_succ l hpos (by omega)).le
  | succ m hle ih =>
    have hnext := monthStart_succ l (m := m) (by omega) (by omega)
    exact (ih (by omega)).trans (hnext ▸ Nat.le_add_right _ _)

theorem civilMonth_mono {l a b : Nat} (hl : l < 2) (hb : b < 365 + l) (h : a ≤ b) :
    civilMonth l a ≤ civilMonth l b := by
  obtain ⟨_, hm, hstart, _⟩ := monthStart_bounds l hl a (by omega)
  obtain ⟨hn, _, _, hend⟩ := monthStart_bounds l hl b hb
  by_contra hlt
  have := monthStart_next l (show civilMonth l a < 13 by omega) (show civilMonth l b < civilMonth l a by omega) hn
  omega

end Civil

section Digits

def digitPoint (n : Nat) : CodePoint := Fin.ofNat 0x110000 (48 + n % 10)

def twoDigits (n : Nat) : Str := [digitPoint (n / 10), digitPoint n]

def fourDigits (n : Nat) : Str := twoDigits (n / 100) ++ twoDigits n

def sixDigits (n : Nat) : Str := fourDigits (n / 100) ++ twoDigits n

theorem val_digitPoint (n : Nat) : (digitPoint n).val = 48 + n % 10 := by
  simp only [digitPoint, Fin.ofNat]
  omega

theorem asciiDigit_digitPoint (n : Nat) : asciiDigit? (digitPoint n) = some (n % 10) := by
  simp only [asciiDigit?, val_digitPoint]
  rw [if_pos (by omega)]
  congr 1
  omega

theorem asciiNumber_twoDigits {n : Nat} (h : n < 100) : asciiNumber? (twoDigits n) = some n := by
  simp only [asciiNumber?, twoDigits, List.foldl_cons, List.foldl_nil, asciiDigit_digitPoint]
  congr 1
  omega

theorem asciiNumber_fourDigits {n : Nat} (h : n < 10000) : asciiNumber? (fourDigits n) = some n := by
  simp only [asciiNumber?, fourDigits, twoDigits, List.cons_append, List.nil_append, List.foldl_cons,
    List.foldl_nil, asciiDigit_digitPoint]
  congr 1
  omega

theorem asciiNumber_sixDigits {n : Nat} (h : n < 1000000) : asciiNumber? (sixDigits n) = some n := by
  simp only [asciiNumber?, sixDigits, fourDigits, twoDigits, List.cons_append, List.nil_append,
    List.foldl_cons, List.foldl_nil, asciiDigit_digitPoint]
  congr 1
  omega

theorem length_fourDigits (m n : Nat) : (fourDigits m).length = (fourDigits n).length := rfl

theorem append_lt_of_lt {a b : Str} (x y : Str) (hlen : a.length = b.length) (h : a < b) :
    a ++ x < b ++ y := by
  induction a generalizing b with
  | nil =>
    cases b with
    | nil => exact absurd h (lt_irrefl _)
    | cons _ _ => simp at hlen
  | cons c a ih =>
    cases b with
    | nil => simp at hlen
    | cons d b =>
      rw [List.cons_append, List.cons_append, List.cons_lt_cons_iff]
      rcases List.cons_lt_cons_iff.mp h with hlt | ⟨heq, hrest⟩
      · exact .inl hlt
      · exact .inr ⟨heq, ih (by simpa using hlen) hrest⟩

theorem twoDigits_lt {m n : Nat} (h : m % 100 < n % 100) : twoDigits m < twoDigits n := by
  simp only [twoDigits, List.cons_lt_cons_iff, Fin.lt_def, Fin.ext_iff, val_digitPoint]
  omega

theorem twoDigits_eq {m n : Nat} (h : m % 100 = n % 100) : twoDigits m = twoDigits n := by
  have htens : m / 10 % 10 = n / 10 % 10 := by omega
  have hones : m % 10 = n % 10 := by omega
  simp only [twoDigits, digitPoint, htens, hones]

theorem fourDigits_lt {m n : Nat} (h : m % 10000 < n % 10000) : fourDigits m < fourDigits n := by
  rw [fourDigits, fourDigits]
  by_cases hhigh : m / 100 % 100 < n / 100 % 100
  · exact append_lt_of_lt _ _ rfl (twoDigits_lt hhigh)
  · have heq : m / 100 % 100 = n / 100 % 100 := by omega
    rw [twoDigits_eq heq]
    exact List.append_left_lt (twoDigits_lt (by omega))

theorem fourDigits_eq {m n : Nat} (h : m % 10000 = n % 10000) : fourDigits m = fourDigits n := by
  have hhigh : m / 100 % 100 = n / 100 % 100 := by omega
  have hlow : m % 100 = n % 100 := by omega
  rw [fourDigits, fourDigits, twoDigits_eq hhigh, twoDigits_eq hlow]

theorem sixDigits_lt {m n : Nat} (h : m < n) (hn : n < 1000000) : sixDigits m < sixDigits n := by
  rw [sixDigits, sixDigits]
  by_cases hhigh : m / 100 < n / 100
  · exact append_lt_of_lt _ _ (length_fourDigits _ _) (fourDigits_lt (by omega))
  · have heq : m / 100 % 10000 = n / 100 % 10000 := by omega
    rw [fourDigits_eq heq]
    exact List.append_left_lt (twoDigits_lt (by omega))

end Digits

section Texts

def maxInstant : Nat := 315537897599999999

def dateTime (y m d h n e : Nat) : Str :=
  fourDigits y ++ (cp '-' :: twoDigits m) ++ (cp '-' :: twoDigits d) ++ (cp 'T' :: twoDigits h) ++
    (cp ':' :: twoDigits n) ++ (cp ':' :: twoDigits e)

def secondText (seconds : Nat) : Str :=
  let days := seconds / 86400
  let y := civilYear days
  let day := days - daysBeforeYear y
  let m := civilMonth (leapDay y) day
  dateTime y m (day - daysBeforeMonth y m + 1) (seconds % 86400 / 3600) (seconds % 3600 / 60)
    (seconds % 60)

def fractionText (micros : Nat) : Str :=
  if micros = 0 then [cp 'Z'] else cp '.' :: sixDigits micros ++ [cp 'Z']

def isoformat (i : Nat) : Str := secondText (i / 1000000) ++ fractionText (i % 1000000)

def utcText? (i : Int) : Option Str :=
  if 0 ≤ i ∧ i ≤ maxInstant then some (isoformat i.toNat) else none

theorem isRfc3339_dateTime {y m d h n e : Nat} {rest : Str} (hy : y < 10000) (hm : m < 100)
    (hd : d < 100) (hh : h < 100) (hn : n < 100) (he : e < 100) :
    isRfc3339 (dateTime y m d h n e ++ rest) =
      (validDate y m d && validTime h n e && validFractionAndZone rest) := by
  have ey := asciiNumber_fourDigits hy
  have em := asciiNumber_twoDigits hm
  have ed := asciiNumber_twoDigits hd
  have eh := asciiNumber_twoDigits hh
  have en := asciiNumber_twoDigits hn
  have ee := asciiNumber_twoDigits he
  simp only [fourDigits, twoDigits, List.cons_append, List.nil_append] at ey em ed eh en ee
  simp only [isRfc3339, dateTime, fourDigits, twoDigits, List.cons_append, List.nil_append,
    ey, em, ed, eh, en, ee, and_self, decide_true, Bool.true_and]

theorem digitPoint_isDigit (n : Nat) : (asciiDigit? (digitPoint n)).isSome = true := by
  rw [asciiDigit_digitPoint]
  rfl

theorem span_sixDigits (n : Nat) :
    (sixDigits n ++ [cp 'Z']).takeWhile (fun d => (asciiDigit? d).isSome) = sixDigits n ∧
      (sixDigits n ++ [cp 'Z']).dropWhile (fun d => (asciiDigit? d).isSome) = [cp 'Z'] := by
  have hzone : (asciiDigit? (cp 'Z')).isSome = false := by decide
  simp only [sixDigits, fourDigits, twoDigits, List.cons_append, List.nil_append,
    List.takeWhile_cons, List.dropWhile_cons, digitPoint_isDigit, hzone, if_true, Bool.false_eq_true,
    if_false, and_self]

theorem fractionDigits_fractionText (micros : Nat) :
    fractionDigits (fractionText micros) = if micros = 0 then [] else sixDigits micros := by
  unfold fractionText
  split
  · rfl
  · simp only [fractionDigits, List.cons_append, if_true]
    exact (span_sixDigits micros).1

theorem validFractionAndZone_fractionText (micros : Nat) :
    validFractionAndZone (fractionText micros) = true := by
  unfold fractionText
  split
  · decide
  · have hzone : validZone [cp 'Z'] = true := by decide
    simp only [validFractionAndZone, List.cons_append, if_true, (span_sixDigits micros).1,
      (span_sixDigits micros).2, hzone, Bool.and_true, decide_eq_true_eq]
    exact ⟨by simp [sixDigits, fourDigits, twoDigits], by simp [sixDigits, fourDigits, twoDigits]⟩

theorem instant_dateTime {y m d h n e micros : Nat} (hy : y < 10000) (hm : m < 100) (hd : d < 100)
    (hh : h < 100) (hn : n < 100) (he : e < 100) (hmicros : micros < 1000000)
    (hdate : validDate y m d = true) (htime : validTime h n e = true) :
    instant? (dateTime y m d h n e ++ fractionText micros) =
      some ((((daysBeforeYear y + daysBeforeMonth y m + (d - 1)) * 86400 + h * 3600 + n * 60 + e) *
        1000000 + micros : Nat) : Int) := by
  have hvalid : isRfc3339 (dateTime y m d h n e ++ fractionText micros) = true := by
    rw [isRfc3339_dateTime hy hm hd hh hn he, hdate, htime, validFractionAndZone_fractionText]
    rfl
  have hdrop : ∀ k, (dateTime y m d h n e ++ fractionText micros).drop (19 + k) =
      (fractionText micros).drop k := by
    intro k
    rw [← List.drop_drop]
    rfl
  have hyear : (dateTime y m d h n e ++ fractionText micros).take 4 = fourDigits y := rfl
  have hmonth : ((dateTime y m d h n e ++ fractionText micros).drop 5).take 2 = twoDigits m := rfl
  have hday : ((dateTime y m d h n e ++ fractionText micros).drop 8).take 2 = twoDigits d := rfl
  have hhour : ((dateTime y m d h n e ++ fractionText micros).drop 11).take 2 = twoDigits h := rfl
  have hminute : ((dateTime y m d h n e ++ fractionText micros).drop 14).take 2 = twoDigits n := rfl
  have hsecond : ((dateTime y m d h n e ++ fractionText micros).drop 17).take 2 = twoDigits e := rfl
  have hrest : (dateTime y m d h n e ++ fractionText micros).drop 19 = fractionText micros := hdrop 0
  simp only [instant?, hvalid, if_true, hyear, hmonth, hday, hhour, hminute, hsecond, hrest,
    asciiNumber_fourDigits hy, asciiNumber_twoDigits hm, asciiNumber_twoDigits hd,
    asciiNumber_twoDigits hh, asciiNumber_twoDigits hn, asciiNumber_twoDigits he, Option.getD_some,
    fractionDigits_fractionText]
  by_cases hzero : micros = 0
  · subst hzero
    have hz : zoneMinutes (fractionText 0) = 0 := by decide
    simp [hz, asciiNumber?]
  · have hlength : (sixDigits micros).length = 6 := rfl
    have hne : sixDigits micros ≠ [] := by simp [sixDigits, fourDigits, twoDigits]
    have hz : zoneMinutes ((fractionText micros).drop 7) = 0 := by
      rw [fractionText, if_neg hzero]
      rfl
    simp only [if_neg hzero, hlength, if_neg hne, show 20 + 6 = 19 + 7 from rfl, hdrop, hz,
      asciiNumber_sixDigits hmicros, Option.getD_some, Nat.sub_self, pow_zero, mul_one, zero_mul,
      sub_zero]

theorem instant_isoformat {i : Nat} (h : i ≤ maxInstant) : instant? (isoformat i) = some (i : Int) := by
  have hdays : i / 1000000 / 86400 < 3652059 := by
    unfold maxInstant at h
    omega
  obtain ⟨days, hdaysEq⟩ : ∃ days, days = i / 1000000 / 86400 := ⟨_, rfl⟩
  rw [← hdaysEq] at hdays
  have hyear := civilYear_le hdays
  have hpos := civilYear_pos days
  obtain ⟨hlow, hhigh⟩ := civilYear_bounds days
  obtain ⟨hm₁, hm₂, hm₃, hm₄⟩ := @civilMonth_bounds (civilYear days) (days - daysBeforeYear (civilYear days))
    (by omega)
  have hmonth : daysInMonth (civilYear days)
      (civilMonth (leapDay (civilYear days)) (days - daysBeforeYear (civilYear days))) ≤ 31 := by
    unfold daysInMonth
    split_ifs <;> omega
  have hdate : validDate (civilYear days)
      (civilMonth (leapDay (civilYear days)) (days - daysBeforeYear (civilYear days)))
      (days - daysBeforeYear (civilYear days) - daysBeforeMonth (civilYear days)
        (civilMonth (leapDay (civilYear days)) (days - daysBeforeYear (civilYear days))) + 1) = true := by
    simp only [validDate, decide_eq_true_eq]
    omega
  have htime : validTime (i / 1000000 % 86400 / 3600) (i / 1000000 % 3600 / 60)
      (i / 1000000 % 60) = true := by
    simp only [validTime, decide_eq_true_eq]
    omega
  simp only [isoformat, secondText, ← hdaysEq]
  rw [instant_dateTime (by omega) (by omega) (by omega) (by omega) (by omega) (by omega) (by omega)
    hdate htime]
  congr 2
  omega

theorem field_lt {c : CodePoint} {m n : Nat} {x y : Str} (hn : n < 100)
    (h : m < n ∨ (m = n ∧ x < y)) : (c :: twoDigits m) ++ x < (c :: twoDigits n) ++ y := by
  rw [List.cons_append, List.cons_append]
  apply List.cons_lt_cons_self.mpr
  rcases h with hlt | ⟨rfl, hrest⟩
  · exact append_lt_of_lt _ _ rfl (twoDigits_lt (by omega))
  · exact List.append_left_lt hrest

theorem clock_lt {a b : Nat} (h : a < b) (hb : b < 86400) :
    (cp 'T' :: twoDigits (a / 3600)) ++ ((cp ':' :: twoDigits (a % 3600 / 60)) ++
        (cp ':' :: twoDigits (a % 60))) <
      (cp 'T' :: twoDigits (b / 3600)) ++ ((cp ':' :: twoDigits (b % 3600 / 60)) ++
        (cp ':' :: twoDigits (b % 60))) := by
  refine field_lt (by omega) ?_
  by_cases hhour : a / 3600 < b / 3600
  · exact .inl hhour
  refine .inr ⟨by omega, field_lt (by omega) ?_⟩
  by_cases hminute : a % 3600 / 60 < b % 3600 / 60
  · exact .inl hminute
  refine .inr ⟨by omega, List.cons_lt_cons_self.mpr (twoDigits_lt (by omega))⟩

theorem secondText_lt {a b : Nat} (h : a < b) (hb : b / 86400 < 3652059) :
    secondText a < secondText b := by
  have hdays : a / 86400 ≤ b / 86400 := Nat.div_le_div_right h.le
  have hyear := civilYear_le hb
  have hmono := civilYear_mono hdays
  obtain ⟨hlow, hhigh⟩ := civilYear_bounds (b / 86400)
  have hlowa := (civilYear_bounds (a / 86400)).1
  simp only [secondText, dateTime, List.append_assoc]
  by_cases hy : civilYear (a / 86400) < civilYear (b / 86400)
  · exact append_lt_of_lt _ _ (length_fourDigits _ _) (fourDigits_lt (by omega))
  have hy : civilYear (a / 86400) = civilYear (b / 86400) := by omega
  rw [hy] at hlowa ⊢
  apply List.append_left_lt
  have hleap := leapDay_le (civilYear (b / 86400))
  have hday : b / 86400 - daysBeforeYear (civilYear (b / 86400)) <
      365 + leapDay (civilYear (b / 86400)) := by omega
  have hdayle : a / 86400 - daysBeforeYear (civilYear (b / 86400)) ≤
      b / 86400 - daysBeforeYear (civilYear (b / 86400)) := Nat.sub_le_sub_right hdays _
  have hmonth := civilMonth_mono (by omega) hday hdayle
  obtain ⟨_, hm₂, hm₃, hm₄⟩ := civilMonth_bounds hday
  obtain ⟨_, _, ha₃, _⟩ := @civilMonth_bounds (civilYear (b / 86400))
    (a / 86400 - daysBeforeYear (civilYear (b / 86400))) (by omega)
  refine field_lt (by omega) ?_
  rcases Nat.lt_or_eq_of_le hmonth with hm | hm
  · exact .inl hm
  rw [hm] at ha₃ ⊢
  have hlength : daysInMonth (civilYear (b / 86400)) (civilMonth (leapDay (civilYear (b / 86400)))
      (b / 86400 - daysBeforeYear (civilYear (b / 86400)))) ≤ 31 := by
    unfold daysInMonth
    split_ifs <;> omega
  refine .inr ⟨rfl, field_lt (by omega) ?_⟩
  by_cases hd : a / 86400 < b / 86400
  · exact .inl (by omega)
  · have hseconds : ∀ k, k % 86400 % 3600 = k % 3600 ∧ k % 86400 % 60 = k % 60 := by omega
    have hclock := clock_lt (show a % 86400 < b % 86400 by omega) (by omega)
    rw [(hseconds a).1, (hseconds b).1, (hseconds a).2, (hseconds b).2] at hclock
    refine .inr ⟨by omega, hclock⟩

def textRank (i : Nat) : Nat :=
  i / 1000000 * 1000001 + (if i % 1000000 = 0 then 1000000 else i % 1000000)

theorem fractionText_lt {m n : Nat} (hn : n < 1000000)
    (h : (if m = 0 then 1000000 else m) < (if n = 0 then 1000000 else n)) :
    fractionText m < fractionText n := by
  have hpoint : cp '.' < cp 'Z' := by decide
  by_cases hm₀ : m = 0
  · rw [if_pos hm₀] at h
    split_ifs at h <;> omega
  · rw [if_neg hm₀] at h
    rw [fractionText, if_neg hm₀, fractionText]
    split_ifs at h ⊢ with hn₀
    · exact List.cons_lt_cons_iff.mpr (.inl hpoint)
    · exact List.cons_lt_cons_self.mpr (append_lt_of_lt _ _ rfl (sixDigits_lt h hn))

theorem length_secondText (a b : Nat) : (secondText a).length = (secondText b).length := by
  simp only [secondText, dateTime, List.length_append, List.length_cons, List.length_nil, length_fourDigits _ 0,
    twoDigits]

theorem isoformat_lt {i j : Nat} (hj : j ≤ maxInstant) (h : textRank i < textRank j) :
    isoformat i < isoformat j := by
  unfold maxInstant at hj
  simp only [textRank] at h
  rw [isoformat, isoformat]
  by_cases hs : i / 1000000 < j / 1000000
  · exact append_lt_of_lt _ _ (length_secondText _ _) (secondText_lt hs (by omega))
  · have heq : i / 1000000 = j / 1000000 := by
      split_ifs at h <;> omega
    rw [heq] at h ⊢
    exact List.append_left_lt (fractionText_lt (by omega) (by omega))

theorem textRank_inj {i j : Nat} (h : textRank i = textRank j) : i = j := by
  simp only [textRank] at h
  split_ifs at h <;> omega

theorem isoformat_le_iff {i j : Nat} (hi : i ≤ maxInstant) (hj : j ≤ maxInstant) :
    isoformat i ≤ isoformat j ↔ textRank i ≤ textRank j := by
  constructor
  · intro h
    by_contra hlt
    exact absurd (isoformat_lt hi (not_le.mp hlt)) (not_lt.mpr h)
  · intro h
    rcases Nat.lt_or_eq_of_le h with hlt | heq
    · exact (isoformat_lt hj hlt).le
    · rw [textRank_inj heq]

end Texts

section Canonical

theorem isoformat_inj {i j : Nat} (hi : i ≤ maxInstant) (hj : j ≤ maxInstant) :
    isoformat i = isoformat j ↔ i = j := by
  constructor
  · intro h
    have hinstant := instant_isoformat hi
    rw [h, instant_isoformat hj] at hinstant
    exact (Int.ofNat.inj (Option.some.inj hinstant)).symm
  · rintro rfl
    rfl

def CanonicalText (text : Str) : Prop := ∃ i ≤ maxInstant, text = isoformat i

theorem CanonicalText.instant {text : Str} (h : CanonicalText text) :
    ∃ i ≤ maxInstant, text = isoformat i ∧ instant? text = some (i : Int) := by
  obtain ⟨i, hi, rfl⟩ := h
  exact ⟨i, hi, rfl, instant_isoformat hi⟩

theorem utcText_eq_some {i : Int} {text : Str} (h : utcText? i = some text) :
    CanonicalText text ∧ instant? text = some i := by
  unfold utcText? at h
  split at h
  · rename_i hrange
    have hi : i.toNat ≤ maxInstant := by omega
    cases h
    refine ⟨⟨i.toNat, hi, rfl⟩, ?_⟩
    rw [instant_isoformat hi, Int.toNat_of_nonneg hrange.1]
  · cases h

def micros (text : Str) : Nat := ((instant? text).getD 0).toNat

theorem micros_canonical {text : Str} (h : CanonicalText text) :
    micros text ≤ maxInstant ∧ text = isoformat (micros text) := by
  obtain ⟨i, hi, htext, hinstant⟩ := h.instant
  have hmicros : micros text = i := by
    rw [micros, hinstant]
    rfl
  rw [hmicros]
  exact ⟨hi, htext⟩

end Canonical

end TraceBackedMemory
