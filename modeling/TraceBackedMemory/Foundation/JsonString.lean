import TraceBackedMemory.Foundation.Json

namespace Text

def point (n : Nat) : CodePoint := Fin.ofNat 0x110000 n

def hexDigit (n : Nat) : CodePoint := point (if n < 10 then 48 + n else 87 + n)

def hexValue? (c : CodePoint) : Option Nat :=
  if 48 ≤ c.val ∧ c.val ≤ 57 then some (c.val - 48)
  else if 97 ≤ c.val ∧ c.val ≤ 102 then some (c.val - 87)
  else if 65 ≤ c.val ∧ c.val ≤ 70 then some (c.val - 55)
  else none

def unicodeEscape (n : Nat) : Str :=
  [92, 117, hexDigit (n / 4096 % 16), hexDigit (n / 256 % 16), hexDigit (n / 16 % 16),
    hexDigit (n % 16)]

def hexValue4? (a b c d : CodePoint) : Option Nat :=
  match hexValue? a, hexValue? b, hexValue? c, hexValue? d with
  | some w, some x, some y, some z => some (4096 * w + 256 * x + 16 * y + z)
  | _, _, _, _ => none

def highHalf (c : CodePoint) : Nat := 0xD800 + (c.val - 0x10000) / 0x400

def lowHalf (c : CodePoint) : Nat := 0xDC00 + (c.val - 0x10000) % 0x400

def combine (h l : CodePoint) : CodePoint :=
  point (0x10000 + (h.val - 0xD800) * 0x400 + (l.val - 0xDC00))

def shortEscape? (c : CodePoint) : Option CodePoint :=
  if c = 34 then some 34
  else if c = 92 then some 92
  else if c = 10 then some 110
  else if c = 13 then some 114
  else if c = 9 then some 116
  else if c = 12 then some 102
  else if c = 8 then some 98
  else none

def shortUnescape? (e : CodePoint) : Option CodePoint :=
  if e = 34 then some 34
  else if e = 92 then some 92
  else if e = 47 then some 47
  else if e = 98 then some 8
  else if e = 102 then some 12
  else if e = 110 then some 10
  else if e = 114 then some 13
  else if e = 116 then some 9
  else none

def escape (c : CodePoint) : Str :=
  match shortEscape? c with
  | some e => [92, e]
  | none =>
    if 32 ≤ c.val ∧ c.val ≤ 126 then [c]
    else if c.val < 0x10000 then unicodeEscape c.val
    else unicodeEscape (highHalf c) ++ unicodeEscape (lowHalf c)

def dumpsString (s : Str) : Str := 34 :: (s.flatMap escape ++ [34])

abbrev Scanned := Bool × CodePoint

def scanString : Str → Option (List Scanned)
  | [] => none
  | c :: s =>
    if c = 34 then (if s.isEmpty then some [] else none)
    else if c = 92 then
      match s with
      | [] => none
      | e :: t =>
        if e = 117 then
          match t with
          | w :: x :: y :: z :: r =>
            match hexValue4? w x y z with
            | some n => (scanString r).map ((true, point n) :: ·)
            | none => none
          | _ => none
        else
          match shortUnescape? e with
          | some d => (scanString t).map ((false, d) :: ·)
          | none => none
    else if c.val < 32 then none
    else (scanString s).map ((false, c) :: ·)

def joinScanned : List Scanned → Str
  | [] => []
  | [p] => [p.2]
  | p :: q :: rest =>
    if p.1 = true ∧ q.1 = true ∧ isHighSurrogate p.2 = true ∧ isLowSurrogate q.2 = true then
      combine p.2 q.2 :: joinScanned rest
    else p.2 :: joinScanned (q :: rest)

def loadsQuoted : Str → Option Str
  | [] => none
  | c :: s => if c = 34 then (scanString s).map joinScanned else none

def joinSurrogates : Str → Str
  | [] => []
  | [c] => [c]
  | h :: l :: rest =>
    if isHighSurrogate h = true ∧ isLowSurrogate l = true then combine h l :: joinSurrogates rest
    else h :: joinSurrogates (l :: rest)

def PairFree : Str → Prop
  | [] => True
  | [_] => True
  | h :: l :: rest =>
    ¬(isHighSurrogate h = true ∧ isLowSurrogate l = true) ∧ PairFree (l :: rest)

instance decidablePairFree : (s : Str) → Decidable (PairFree s)
  | [] => isTrue trivial
  | [_] => isTrue trivial
  | _ :: l :: rest => @instDecidableAnd _ _ _ (decidablePairFree (l :: rest))

def scannedOf (c : CodePoint) : List Scanned :=
  match shortEscape? c with
  | some _ => [(false, c)]
  | none =>
    if 32 ≤ c.val ∧ c.val ≤ 126 then [(false, c)]
    else if c.val < 0x10000 then [(true, c)]
    else [(true, point (highHalf c)), (true, point (lowHalf c))]

section Scanning

theorem scanString_plain {c : CodePoint} (hq : c ≠ 34) (hb : c ≠ 92) (hl : ¬c.val < 32) (s : Str) :
    scanString (c :: s) = (scanString s).map ((false, c) :: ·) := by
  rw [scanString.eq_def]
  simp only [if_neg hq, if_neg hb, if_neg hl]

theorem scanString_short {e d : CodePoint} (hu : e ≠ 117) (he : shortUnescape? e = some d)
    (s : Str) : scanString (92 :: e :: s) = (scanString s).map ((false, d) :: ·) := by
  rw [scanString.eq_def]
  simp only [if_neg (show (92 : CodePoint) ≠ 34 by decide), if_true, if_neg hu, he]

theorem scanString_unicode {w x y z : CodePoint} {n : Nat} (hn : hexValue4? w x y z = some n)
    (s : Str) : scanString (92 :: 117 :: w :: x :: y :: z :: s) =
      (scanString s).map ((true, point n) :: ·) := by
  rw [scanString.eq_def]
  simp only [if_neg (show (92 : CodePoint) ≠ 34 by decide), if_true, hn]

theorem scanString_quote : scanString [34] = some [] := rfl

end Scanning

section Hexadecimal

theorem hexValue_hexDigit {n : Nat} (h : n < 16) : hexValue? (hexDigit n) = some n := by
  interval_cases n <;> rfl

theorem hexValue4_unicodeEscape {n : Nat} (h : n < 0x10000) :
    hexValue4? (hexDigit (n / 4096 % 16)) (hexDigit (n / 256 % 16)) (hexDigit (n / 16 % 16))
      (hexDigit (n % 16)) = some n := by
  simp only [hexValue4?, hexValue_hexDigit (Nat.mod_lt _ (by omega : 0 < 16)), Option.some.injEq]
  omega

theorem scanString_unicodeEscape {n : Nat} (h : n < 0x10000) (s : Str) :
    scanString (unicodeEscape n ++ s) = (scanString s).map ((true, point n) :: ·) := by
  exact scanString_unicode (hexValue4_unicodeEscape h) s

theorem point_val (c : CodePoint) : point c.val = c := by
  simp [point]

theorem val_point {n : Nat} (h : n < 0x110000) : (point n).val = n := by
  simp only [point, Fin.ofNat]
  exact Nat.mod_eq_of_lt h

theorem combine_halves {c : CodePoint} (h : 0x10000 ≤ c.val) :
    combine (point (highHalf c)) (point (lowHalf c)) = c := by
  have hc : c.val < 0x110000 := c.isLt
  have hh : highHalf c < 0x110000 := by unfold highHalf; omega
  have hl : lowHalf c < 0x110000 := by unfold lowHalf; omega
  have hv : 0x10000 + (highHalf c - 0xD800) * 0x400 + (lowHalf c - 0xDC00) = c.val := by
    unfold highHalf lowHalf
    omega
  rw [combine, val_point hh, val_point hl, hv, point_val]

theorem isHighSurrogate_highHalf (c : CodePoint) :
    isHighSurrogate (point (highHalf c)) = true := by
  have hc : c.val < 0x110000 := c.isLt
  have hh : highHalf c < 0x110000 := by unfold highHalf; omega
  simp only [isHighSurrogate, val_point hh, decide_eq_true_eq]
  unfold highHalf
  omega

theorem isLowSurrogate_highHalf (c : CodePoint) :
    isLowSurrogate (point (highHalf c)) = false := by
  have hc : c.val < 0x110000 := c.isLt
  have hh : highHalf c < 0x110000 := by unfold highHalf; omega
  simp only [isLowSurrogate, val_point hh, decide_eq_false_iff_not]
  unfold highHalf
  omega

theorem isLowSurrogate_lowHalf (c : CodePoint) : isLowSurrogate (point (lowHalf c)) = true := by
  have hl : lowHalf c < 0x110000 := by unfold lowHalf; omega
  simp only [isLowSurrogate, val_point hl, decide_eq_true_eq]
  unfold lowHalf
  omega

end Hexadecimal

section RoundTrip

theorem shortUnescape_of_shortEscape {c e : CodePoint} (h : shortEscape? c = some e) :
    e ≠ 117 ∧ shortUnescape? e = some c := by
  unfold shortEscape? at h
  split_ifs at h <;> simp only [Option.some.injEq] at h <;> subst h <;>
    subst_vars <;> decide

theorem scanString_escape (c : CodePoint) (s : Str) :
    scanString (escape c ++ s) = (scanString s).map (scannedOf c ++ ·) := by
  unfold escape scannedOf
  cases he : shortEscape? c with
  | some e =>
    obtain ⟨h117, hun⟩ := shortUnescape_of_shortEscape he
    exact scanString_short h117 hun s
  | none =>
    by_cases hp : 32 ≤ c.val ∧ c.val ≤ 126
    · have hq : c ≠ 34 := by
        rintro rfl
        simp [shortEscape?] at he
      have hb : c ≠ 92 := by
        rintro rfl
        simp [shortEscape?] at he
      have hl : ¬c.val < 32 := by omega
      rw [if_pos hp, if_pos hp]
      exact scanString_plain hq hb hl s
    · by_cases hm : c.val < 0x10000
      · simp [hp, hm, scanString_unicodeEscape hm, point_val]
      · have hc : c.val < 0x110000 := c.isLt
        have hh : highHalf c < 0x10000 := by unfold highHalf; omega
        have hl : lowHalf c < 0x10000 := by unfold lowHalf; omega
        simp only [hp, hm, if_false, List.append_assoc, scanString_unicodeEscape hh,
          scanString_unicodeEscape hl, Option.map_map]
        rfl

theorem scanString_dumps (s : Str) :
    scanString (s.flatMap escape ++ [34]) = some (s.flatMap scannedOf) := by
  induction s with
  | nil => exact scanString_quote
  | cons c s ih =>
    rw [List.flatMap_cons, List.append_assoc, scanString_escape, ih]
    rfl

theorem joinScanned_cons_plain (p : Scanned) (rest : List Scanned)
    (h : ¬(p.1 = true ∧ isHighSurrogate p.2 = true)) :
    joinScanned (p :: rest) = p.2 :: joinScanned rest := by
  cases rest with
  | nil => rfl
  | cons q rest =>
    rw [joinScanned, if_neg]
    rintro ⟨h1, _, h2, _⟩
    exact h ⟨h1, h2⟩

theorem scannedOf_surrogate {c : CodePoint} (h : isSurrogate c = true) : scannedOf c = [(true, c)] := by
  have hc : 0xD800 ≤ c.val ∧ c.val < 0xE000 := by simpa [isSurrogate] using h
  have hs : shortEscape? c = none := by
    unfold shortEscape?
    split_ifs <;> simp_all
  have hp : ¬(32 ≤ c.val ∧ c.val ≤ 126) := by omega
  have hm : c.val < 0x10000 := by omega
  simp [scannedOf, hs, hp, hm]

theorem isSurrogate_of_high {c : CodePoint} (h : isHighSurrogate c = true) :
    isSurrogate c = true := by
  simp only [isHighSurrogate, isSurrogate, decide_eq_true_eq] at *
  omega

theorem isSurrogate_of_low {c : CodePoint} (h : isLowSurrogate c = true) :
    isSurrogate c = true := by
  simp only [isLowSurrogate, isSurrogate, decide_eq_true_eq] at *
  omega

theorem scannedOf_head_not_low {d : CodePoint} (h : isLowSurrogate d = false) :
    ∃ q rest, scannedOf d = q :: rest ∧ ¬(q.1 = true ∧ isLowSurrogate q.2 = true) := by
  unfold scannedOf
  split
  · exact ⟨_, _, rfl, by simp⟩
  · split
    · exact ⟨_, _, rfl, by simp⟩
    · split
      · exact ⟨_, _, rfl, by simp [h]⟩
      · exact ⟨_, _, rfl, by simp [isLowSurrogate_highHalf]⟩

theorem joinScanned_scannedOf_cons (c : CodePoint) (rest : List Scanned)
    (h : isHighSurrogate c = false) :
    joinScanned (scannedOf c ++ rest) = c :: joinScanned rest := by
  unfold scannedOf
  split
  · exact joinScanned_cons_plain _ _ (by simp)
  · split
    · exact joinScanned_cons_plain _ _ (by simp)
    · split
      · exact joinScanned_cons_plain _ _ (by simp [h])
      · rename_i hm
        have hc : 0x10000 ≤ c.val := by omega
        simp [joinScanned, isHighSurrogate_highHalf, isLowSurrogate_lowHalf, combine_halves hc]

theorem joinScanned_high_cons {c : CodePoint} {q : Scanned} {rest : List Scanned}
    (h : ¬(q.1 = true ∧ isLowSurrogate q.2 = true)) :
    joinScanned ((true, c) :: q :: rest) = c :: joinScanned (q :: rest) := by
  rw [joinScanned, if_neg]
  rintro ⟨_, h1, _, h2⟩
  exact h ⟨h1, h2⟩

theorem joinScanned_flatMap (s : Str) : joinScanned (s.flatMap scannedOf) = joinSurrogates s := by
  induction s using joinSurrogates.induct with
  | case1 => rfl
  | case2 c =>
    by_cases hc : isHighSurrogate c = true
    · simp [scannedOf_surrogate (isSurrogate_of_high hc), joinScanned, joinSurrogates]
    · have := joinScanned_scannedOf_cons c [] (by simpa using hc)
      simpa [joinScanned, joinSurrogates] using this
  | case3 h l rest hp ih =>
    rw [joinSurrogates, if_pos hp]
    simp only [List.flatMap_cons, scannedOf_surrogate (isSurrogate_of_high hp.1),
      scannedOf_surrogate (isSurrogate_of_low hp.2), List.cons_append, List.nil_append]
    rw [joinScanned, if_pos ⟨rfl, rfl, hp⟩, ih]
  | case4 h l rest hp ih =>
    rw [joinSurrogates, if_neg hp, ← ih]
    by_cases hh : isHighSurrogate h = true
    · have hl : isLowSurrogate l = false := by
        cases hl : isLowSurrogate l with
        | false => rfl
        | true => exact False.elim (hp ⟨hh, hl⟩)
      obtain ⟨q, r, hq, hn⟩ := scannedOf_head_not_low hl
      simp only [List.flatMap_cons, scannedOf_surrogate (isSurrogate_of_high hh), hq,
        List.cons_append, List.nil_append]
      exact joinScanned_high_cons hn
    · rw [List.flatMap_cons]
      exact joinScanned_scannedOf_cons h _ (by simpa using hh)

theorem loadsQuoted_dumpsString (s : Str) : loadsQuoted (dumpsString s) = some (joinSurrogates s) := by
  rw [dumpsString, loadsQuoted, if_pos rfl, scanString_dumps, Option.map_some, joinScanned_flatMap]

theorem length_joinSurrogates_le (s : Str) : (joinSurrogates s).length ≤ s.length := by
  induction s using joinSurrogates.induct with
  | case1 => simp [joinSurrogates]
  | case2 c => simp [joinSurrogates]
  | case3 h l rest hp ih =>
    simp only [joinSurrogates, if_pos hp, List.length_cons]
    omega
  | case4 h l rest hp ih =>
    simp only [joinSurrogates, if_neg hp, List.length_cons] at ih ⊢
    omega

theorem joinSurrogates_eq_self_iff (s : Str) : joinSurrogates s = s ↔ PairFree s := by
  induction s using joinSurrogates.induct with
  | case1 => simp [joinSurrogates, PairFree]
  | case2 c => simp [joinSurrogates, PairFree]
  | case3 h l rest hp ih =>
    constructor
    · intro he
      have hlen := congrArg List.length he
      have hle := length_joinSurrogates_le rest
      simp only [joinSurrogates, if_pos hp, List.length_cons] at hlen
      omega
    · intro hf
      exact False.elim (hf.1 hp)
  | case4 h l rest hp ih =>
    rw [joinSurrogates, if_neg hp, List.cons.injEq, ih]
    simp [PairFree, hp]

theorem mem_escape_printable {c d : CodePoint} (h : d ∈ escape c) : 32 ≤ d.val ∧ d.val ≤ 126 := by
  have hex : ∀ n, 32 ≤ (hexDigit (n % 16)).val ∧ (hexDigit (n % 16)).val ≤ 126 := by
    intro n
    have hn : n % 16 < 16 := Nat.mod_lt _ (by omega)
    generalize n % 16 = m at hn
    interval_cases m <;> decide
  have hu : ∀ n, d ∈ unicodeEscape n → 32 ≤ d.val ∧ d.val ≤ 126 := by
    intro n hd
    simp only [unicodeEscape, List.mem_cons, List.not_mem_nil, or_false] at hd
    rcases hd with rfl | rfl | rfl | rfl | rfl | rfl
    · decide
    · decide
    · exact hex _
    · exact hex _
    · exact hex _
    · exact hex _
  unfold escape at h
  split at h
  · rename_i e he
    simp only [List.mem_cons, List.not_mem_nil, or_false] at h
    unfold shortEscape? at he
    split_ifs at he <;> rcases h with rfl | rfl <;> simp_all <;> subst he <;> decide
  · split at h
    · rename_i hp
      simp only [List.mem_singleton] at h
      rw [h]
      exact hp
    · split at h
      · exact hu _ h
      · rcases List.mem_append.mp h with h | h
        · exact hu _ h
        · exact hu _ h

theorem mem_dumpsString_printable {s : Str} {d : CodePoint} (h : d ∈ dumpsString s) :
    32 ≤ d.val ∧ d.val ≤ 126 := by
  simp only [dumpsString, List.mem_cons, List.mem_append, List.mem_flatMap, List.not_mem_nil,
    or_false] at h
  rcases h with rfl | ⟨c, _, hd⟩ | rfl
  · decide
  · exact mem_escape_printable hd
  · decide

end RoundTrip

end Text
