import TraceBackedMemory.Foundation.SortedKeys
import TraceBackedMemory.Foundation.Raising

namespace Text

section Literals

def isSpacing (c : CodePoint) : Bool := decide (c = 32 ∨ c = 9 ∨ c = 10 ∨ c = 13)

def skip (s : Str) : Str := s.dropWhile isSpacing

def scanText : Str → Option (List Scanned × Str)
  | [] => none
  | c :: s =>
    if c = 34 then some ([], s)
    else if c = 92 then
      match s with
      | [] => none
      | e :: t =>
        if e = 117 then
          match t with
          | w :: x :: y :: z :: r =>
            match hexValue4? w x y z with
            | some n => (scanText r).map (fun p => ((true, point n) :: p.1, p.2))
            | none => none
          | _ => none
        else
          match shortUnescape? e with
          | some d => (scanText t).map (fun p => ((false, d) :: p.1, p.2))
          | none => none
    else if c.val < 32 then none
    else (scanText s).map (fun p => ((false, c) :: p.1, p.2))

structure Numeral where
  minus : Str
  whole : Str
  tail : Str

def Numeral.text (n : Numeral) : Str := n.minus ++ n.whole ++ n.tail

def scanSign (signs : List CodePoint) : Str → Str × Str
  | [] => ([], [])
  | c :: s => if c ∈ signs then ([c], s) else ([], c :: s)

def scanWhole : Str → Option (Str × Str)
  | [] => none
  | c :: s =>
    if c = 48 then some ([48], s)
    else if isNumeral c then some (c :: s.takeWhile isNumeral, s.dropWhile isNumeral)
    else none

def scanFraction : Str → Str × Str
  | [] => ([], [])
  | c :: s =>
    if c = 46 ∧ s.takeWhile isNumeral ≠ [] then (46 :: s.takeWhile isNumeral, s.dropWhile isNumeral)
    else ([], c :: s)

def scanExponent : Str → Str × Str
  | [] => ([], [])
  | c :: s =>
    let (sign, t) := scanSign [43, 45] s
    if (c = 101 ∨ c = 69) ∧ t.takeWhile isNumeral ≠ [] then
      (c :: (sign ++ t.takeWhile isNumeral), t.dropWhile isNumeral)
    else ([], c :: s)

def scanNumeral (s : Str) : Option (Numeral × Str) := do
  let (minus, s) := scanSign [45] s
  let (whole, s) ← scanWhole s
  let (fraction, s) := scanFraction s
  let (exponent, s) := scanExponent s
  return (⟨minus, whole, fraction ++ exponent⟩, s)

end Literals

end Text

namespace Text

section Quoted

def controlScanned (c : CodePoint) : Scanned := (decide (shortEscape? c = none ∧ c.val < 32), c)

theorem scanText_plain {c : CodePoint} (hquote : c ≠ 34) (hslash : c ≠ 92) (hlow : ¬c.val < 32) (s : Str) :
    scanText (c :: s) = (scanText s).map (fun p => ((false, c) :: p.1, p.2)) := by
  rw [scanText.eq_def]
  simp only [if_neg hquote, if_neg hslash, if_neg hlow]

theorem scanText_short {e d : CodePoint} (hu : e ≠ 117) (he : shortUnescape? e = some d) (s : Str) :
    scanText (92 :: e :: s) = (scanText s).map (fun p => ((false, d) :: p.1, p.2)) := by
  have hquote : (92 : CodePoint) ≠ 34 := by decide
  rw [scanText.eq_def]
  simp only [if_neg hquote, if_true, if_neg hu, he]

theorem scanText_unicode {n : Nat} (h : n < 0x10000) (s : Str) :
    scanText (unicodeEscape n ++ s) = (scanText s).map (fun p => ((true, point n) :: p.1, p.2)) := by
  have hquote : (92 : CodePoint) ≠ 34 := by decide
  rw [unicodeEscape, scanText.eq_def]
  simp only [List.cons_append, List.nil_append, if_neg hquote, if_true, hexValue4_unicodeEscape h]

theorem scanText_quote (s : Str) : scanText (34 :: s) = some ([], s) := by
  rw [scanText.eq_def]
  rfl

theorem scanText_escapeControl (c : CodePoint) (s : Str) :
    scanText (escapeControl c ++ s) = (scanText s).map (fun p => (controlScanned c :: p.1, p.2)) := by
  unfold controlScanned escapeControl
  cases h : shortEscape? c with
  | some e =>
    obtain ⟨hu, he⟩ := shortUnescape_of_shortEscape h
    simpa using scanText_short hu he s
  | none =>
    by_cases hc : c.val < 32
    · have hbound : c.val < 0x10000 := by omega
      simpa only [hc, if_true, and_self, decide_true, point_val] using scanText_unicode hbound s
    · have hquote : c ≠ 34 := by
        rintro rfl
        cases h
      have hslash : c ≠ 92 := by
        rintro rfl
        cases h
      simpa only [hc, if_false, and_false, decide_false, List.singleton_append] using scanText_plain hquote hslash hc s

theorem scanText_escaped (s r : Str) :
    scanText (s.flatMap escapeControl ++ 34 :: r) = some (s.map controlScanned, r) := by
  induction s with
  | nil => exact scanText_quote r
  | cons c s ih =>
    rw [List.flatMap_cons, List.append_assoc, scanText_escapeControl, ih]
    rfl

theorem joinScanned_controls (s : Str) : joinScanned (s.map controlScanned) = s := by
  induction s with
  | nil => rfl
  | cons c s ih =>
    cases s with
    | nil => rfl
    | cons d s =>
      have hflag : ¬((controlScanned c).1 = true ∧ (controlScanned d).1 = true ∧
          isHighSurrogate (controlScanned c).2 = true ∧ isLowSurrogate (controlScanned d).2 = true) := by
        rintro ⟨hc, -, hhigh, -⟩
        have hlow : c.val < 32 := (of_decide_eq_true hc).2
        have hsurrogate : 0xD800 ≤ c.val := (of_decide_eq_true hhigh).1
        omega
      rw [List.map_cons, List.map_cons, joinScanned, if_neg hflag, ← List.map_cons, ih]
      rfl

end Quoted

section Digits

theorem dropWhile_numerals {s r : Str} (hs : ∀ c ∈ s, isNumeral c = true) (hr : Stops r) :
    (s ++ r).dropWhile isNumeral = r := by
  rw [List.dropWhile_append_of_pos hs]
  cases r with
  | nil => rfl
  | cons c r => exact List.dropWhile_cons_of_neg (by simp [hr c rfl])

theorem accumulateDigits_lt {s : Str} {acc n : Nat} (h : accumulateDigits acc s = some n) :
    n < (acc + 1) * 10 ^ s.length := by
  induction s generalizing acc with
  | nil =>
    cases h
    simp
  | cons c s ih =>
    rw [accumulateDigits] at h
    cases hd : digitValue? c with
    | none =>
      rw [hd] at h
      cases h
    | some d =>
      rw [hd] at h
      have hdigit : d < 10 := by
        obtain ⟨z, hz, rfl⟩ := Option.map_eq_some_iff.mp hd
        have hin : z ≤ c.val ∧ c.val < z + 10 := by simpa using List.find?_some hz
        omega
      calc n < (acc * 10 + d + 1) * 10 ^ s.length := ih h
        _ ≤ ((acc + 1) * 10) * 10 ^ s.length := Nat.mul_le_mul_right _ (by omega)
        _ = (acc + 1) * 10 ^ (c :: s).length := by rw [List.length_cons, pow_succ', Nat.mul_assoc]

def isWhole (s : Str) : Prop := s = [48] ∨ ∃ c t, s = c :: t ∧ c ≠ 48 ∧ ∀ d ∈ s, isNumeral d = true

theorem isWhole_decimal (n : Nat) : isWhole (decimal n) := by
  obtain ⟨c, t, hct, hc⟩ := decimal_head n
  by_cases hzero : c = 48
  · have hvalue : accumulateDigits 0 (decimal n) = some n := by
      simpa [padded] using accumulateDigits_padded 0 n
    rw [hct, hzero] at hvalue
    have hrest : accumulateDigits 0 t = some n := hvalue
    have hbound : n < 10 ^ t.length := by simpa using accumulateDigits_lt hrest
    cases t with
    | nil => exact .inl (by rw [hct, hzero])
    | cons d t =>
      have hlength := (length_decimal_le_iff (by simp)).mpr hbound
      rw [hct] at hlength
      simp at hlength
  · exact .inr ⟨c, t, hct, hzero, fun d hd => isNumeral_of_mem_decimal hd⟩

theorem isNumeral_of_whole {s : Str} (h : isWhole s) {c : CodePoint} (hc : c ∈ s) :
    isNumeral c = true := by
  obtain rfl | ⟨_, _, -, -, hall⟩ := h
  · obtain rfl := List.mem_singleton.mp hc
    rfl
  · exact hall c hc

theorem scanWhole_append {s r : Str} (h : isWhole s) (hr : Stops r) :
    scanWhole (s ++ r) = some (s, r) := by
  obtain rfl | ⟨c, t, rfl, hc, hall⟩ := h
  · rfl
  · have ht : ∀ d ∈ t, isNumeral d = true := fun d hd => hall d (List.mem_cons_of_mem _ hd)
    rw [List.cons_append, scanWhole, if_neg hc, if_pos (hall c List.mem_cons_self),
      takeWhile_numerals ht hr, dropWhile_numerals ht hr]

theorem scanSign_none {signs : List CodePoint} {r : Str} (h : ∀ c ∈ r.head?, c ∉ signs) :
    scanSign signs r = ([], r) := by
  cases r with
  | nil => rfl
  | cons c r => rw [scanSign, if_neg (h c rfl)]

def isSign (signs : List CodePoint) (s : Str) : Prop := s = [] ∨ ∃ c ∈ signs, s = [c]

theorem scanSign_append {signs : List CodePoint} {s r : Str} (h : isSign signs s)
    (hr : ∀ c ∈ r.head?, c ∉ signs) : scanSign signs (s ++ r) = (s, r) := by
  obtain rfl | ⟨c, hc, rfl⟩ := h
  · exact scanSign_none hr
  · rw [List.singleton_append, scanSign, if_pos hc]

def Digits (s : Str) : Prop := s ≠ [] ∧ ∀ c ∈ s, isNumeral c = true

def isFraction (s : Str) : Prop := s = [] ∨ ∃ t, Digits t ∧ s = 46 :: t

def isExponent (s : Str) : Prop := s = [] ∨ ∃ sign t, isSign [43, 45] sign ∧ Digits t ∧ s = 101 :: (sign ++ t)

theorem scanFraction_append {s r : Str} (h : isFraction s) (hr : Stops r) (hdot : ∀ c ∈ r.head?, c ≠ 46) :
    scanFraction (s ++ r) = (s, r) := by
  obtain rfl | ⟨t, ⟨ht, hall⟩, rfl⟩ := h
  · cases r with
    | nil => rfl
    | cons c r =>
      have hc : ¬(c = 46 ∧ r.takeWhile isNumeral ≠ []) := fun hboth => hdot c rfl hboth.1
      rw [List.nil_append, scanFraction, if_neg hc]
  · rw [List.cons_append, scanFraction, takeWhile_numerals hall hr, dropWhile_numerals hall hr,
      if_pos ⟨rfl, ht⟩]

theorem scanExponent_append {s r : Str} (h : isExponent s) (hr : Stops r)
    (hletter : ∀ c ∈ r.head?, c ≠ 101 ∧ c ≠ 69) : scanExponent (s ++ r) = (s, r) := by
  obtain rfl | ⟨sign, t, hsign, ⟨ht, hall⟩, rfl⟩ := h
  · cases r with
    | nil => rfl
    | cons c r =>
      obtain ⟨he, hE⟩ := hletter c rfl
      simp only [List.nil_append, scanExponent, he, hE, or_self, false_and, if_false]
  · have hhead : ∀ c ∈ (t ++ r).head?, c ∉ [43, 45] := by
      obtain ⟨d, t, rfl⟩ := List.exists_cons_of_ne_nil ht
      rintro c ⟨⟩ hmem
      have hd := hall d List.mem_cons_self
      simp only [List.mem_cons, List.not_mem_nil, or_false] at hmem
      rcases hmem with rfl | rfl <;> cases hd
    have hscan : scanSign [43, 45] (sign ++ (t ++ r)) = (sign, t ++ r) := scanSign_append hsign hhead
    simp only [List.cons_append, List.append_assoc, scanExponent, hscan, takeWhile_numerals hall hr,
      dropWhile_numerals hall hr, true_or, ht, ne_eq, not_false_eq_true, and_self, if_true]

def Ends (r : Str) : Prop := ∀ c ∈ r.head?, c = 44 ∨ c = 93 ∨ c = 125

theorem Ends.stops {r : Str} (h : Ends r) : Stops r := by
  intro c hc
  rcases h c hc with rfl | rfl | rfl <;> rfl

structure Numeral.Formed (n : Numeral) : Prop where
  minus : isSign [45] n.minus
  whole : isWhole n.whole
  tail : ∃ fraction exponent, isFraction fraction ∧ isExponent exponent ∧ n.tail = fraction ++ exponent

theorem scanNumeral_append {n : Numeral} (h : n.Formed) {r : Str} (hr : Ends r) :
    scanNumeral (n.text ++ r) = some (n, r) := by
  obtain ⟨minus, whole, tail⟩ := n
  obtain ⟨hminus, hwhole, fraction, exponent, hfraction, hexponent, htail⟩ := h
  dsimp only at hminus hwhole htail
  subst htail
  have hletters : ∀ c ∈ r.head?, c ≠ 101 ∧ c ≠ 69 := by
    intro c hc
    rcases hr c hc with rfl | rfl | rfl <;> decide
  have hexp : scanExponent (exponent ++ r) = (exponent, r) :=
    scanExponent_append hexponent hr.stops hletters
  have hstart : ∀ c ∈ (exponent ++ r).head?, isNumeral c = false ∧ c ≠ 46 := by
    intro c hc
    obtain rfl | ⟨sign, t, -, -, rfl⟩ := hexponent
    · rcases hr c hc with rfl | rfl | rfl <;> decide
    · cases hc
      decide
  have hfrac : scanFraction (fraction ++ (exponent ++ r)) = (fraction, exponent ++ r) :=
    scanFraction_append hfraction (fun c hc => (hstart c hc).1) (fun c hc => (hstart c hc).2)
  have hstops : Stops (fraction ++ (exponent ++ r)) := by
    intro c hc
    obtain rfl | ⟨t, -, rfl⟩ := hfraction
    · exact (hstart c hc).1
    · cases hc
      rfl
  have hint : scanWhole (whole ++ (fraction ++ (exponent ++ r))) =
      some (whole, fraction ++ (exponent ++ r)) := scanWhole_append hwhole hstops
  have hhead : ∀ c ∈ (whole ++ (fraction ++ (exponent ++ r))).head?, c ∉ [45] := by
    intro c hc hmem
    obtain rfl := List.mem_singleton.mp hmem
    have hne : whole ≠ [] := by
      obtain rfl | ⟨_, _, rfl, -⟩ := hwhole <;> simp
    obtain ⟨d, t, rfl⟩ := List.exists_cons_of_ne_nil hne
    cases hc
    have hnumeral := isNumeral_of_whole hwhole List.mem_cons_self
    cases hnumeral
  have hsign := scanSign_append hminus hhead
  simp only [Numeral.text, List.append_assoc, scanNumeral, hsign, hint, hfrac, hexp, Option.bind_eq_bind,
    Option.bind_some, Option.pure_def]

end Digits

end Text

namespace Json

open Text Raising OrderBy

section Scanning

inductive ScanFault where
  | syntaxError
  | duplicateKey (key : Str)
  | nonFinite (constant : Str)
  | integerTooLong
  deriving DecidableEq

def intMaxStrDigits : Nat := 4300

def jsonConstants : List (Str × Json) :=
  [(lit "null", .null), (lit "true", .bool true), (lit "false", .bool false)]

def nonFiniteConstants : List Str := [lit "NaN", lit "Infinity", lit "-Infinity"]

def firstDuplicate (seen : List Str) : List Str → Option Str
  | [] => none
  | k :: keys => if k ∈ seen then some k else firstDuplicate (k :: seen) keys

structure FloatCodec where
  repr : Double → Str
  float : Str → Double
  formed : ∀ x, x.isFinite = true → ∃ n : Numeral, n.Formed ∧ n.tail ≠ [] ∧ repr x = n.text
  float_repr : ∀ x, x.isFinite = true → float (repr x) = x

variable (codec : FloatCodec)

def readNumeral (n : Numeral) : Except ScanFault Number :=
  if n.tail = [] then do
    raiseIf (intMaxStrDigits < n.whole.length) .integerTooLong
    let magnitude : Int := ((parseDigits n.whole).getD 0 : Nat)
    return .int (if n.minus = [] then magnitude else -magnitude)
  else .ok (.float (codec.float n.text))

def scanAtom (s : Str) : Except ScanFault (Json × Str) :=
  match jsonConstants.find? (fun constant => constant.1.isPrefixOf s) with
  | some constant => .ok (constant.2, s.drop constant.1.length)
  | none =>
    match nonFiniteConstants.find? (fun constant => constant.isPrefixOf s) with
    | some constant => .error (.nonFinite constant)
    | none => do
      let (n, r) ← demand (scanNumeral s) .syntaxError
      let number ← readNumeral codec n
      return (.num number, r)

def scanKey : Str → Except ScanFault (Str × Str)
  | [] => .error .syntaxError
  | c :: s => do
    raiseIf (c ≠ 34) .syntaxError
    let (key, r) ← demand (scanText s) .syntaxError
    match skip r with
    | [] => .error .syntaxError
    | d :: t => do
      raiseIf (d ≠ 58) .syntaxError
      return (joinScanned key, skip t)

-- the pairs are checked when their object is complete, as the pairs hook is
def uniqueObject (fields : List (Str × Json)) : Except ScanFault Json :=
  match firstDuplicate [] (fields.map Prod.fst) with
  | some key => .error (.duplicateKey key)
  | none => .ok (.obj fields)

mutual

def scanValue : Nat → Str → Except ScanFault (Json × Str)
  | 0, _ => .error .syntaxError
  | fuel + 1, s =>
    match s with
    | [] => .error .syntaxError
    | c :: r =>
      if c = 34 then do
        let (text, r) ← demand (scanText r) .syntaxError
        return (.str (joinScanned text), r)
      else if c = 91 then
        match skip r with
        | [] => .error .syntaxError
        | d :: t =>
          if d = 93 then .ok (.arr [], t)
          else do
            let (items, r) ← scanItems fuel (d :: t)
            return (.arr items, r)
      else if c = 123 then
        match skip r with
        | [] => .error .syntaxError
        | d :: t =>
          if d = 125 then .ok (.obj [], t)
          else do
            let (fields, r) ← scanFields fuel (d :: t)
            let value ← uniqueObject fields
            return (value, r)
      else scanAtom codec (c :: r)

def scanItems : Nat → Str → Except ScanFault (List Json × Str)
  | 0, _ => .error .syntaxError
  | fuel + 1, s => do
    let (v, r) ← scanValue fuel s
    match skip r with
    | [] => .error .syntaxError
    | c :: t =>
      if c = 93 then .ok ([v], t)
      else do
        raiseIf (c ≠ 44) .syntaxError
        let (items, r) ← scanItems fuel (skip t)
        return (v :: items, r)

def scanFields : Nat → Str → Except ScanFault (List (Str × Json) × Str)
  | 0, _ => .error .syntaxError
  | fuel + 1, s => do
    let (key, r) ← scanKey s
    let (v, r) ← scanValue fuel r
    match skip r with
    | [] => .error .syntaxError
    | c :: t =>
      if c = 125 then .ok ([(key, v)], t)
      else do
        raiseIf (c ≠ 44) .syntaxError
        let (fields, r) ← scanFields fuel (skip t)
        return ((key, v) :: fields, r)

end

-- two steps of fuel for every character are never used up by a text
def scanDocument (s : Str) : Except ScanFault Json := do
  let (v, r) ← scanValue codec (2 * s.length + 1) (skip s)
  raiseIf (skip r ≠ []) .syntaxError
  return v

end Scanning

section Atoms

variable {codec : FloatCodec}

theorem isPrefixOf_of_head {c d : CodePoint} (h : d ≠ c) (l s : Str) :
    (d :: l).isPrefixOf (c :: s) = false := by
  simp [List.isPrefixOf, h]

theorem scanAtom_numeral {n : Numeral} (h : n.Formed) {r : Str} (hr : Ends r) :
    scanAtom codec (n.text ++ r) =
      readNumeral codec n >>= fun number => .ok (.num number, r) := by
  have hscan := scanNumeral_append h hr
  obtain ⟨hminus, hwhole, -⟩ := h
  have hne : n.whole ≠ [] := by
    rcases hwhole with hwhole | ⟨_, _, hwhole, -⟩ <;> simp [hwhole]
  obtain ⟨c, t, hct⟩ := List.exists_cons_of_ne_nil hne
  have hc : isNumeral c = true := isNumeral_of_whole hwhole (by rw [hct]; exact List.mem_cons_self)
  have hnot (k : CodePoint) (hk : isNumeral k = false) : k ≠ c := by
    rintro rfl
    rw [hc] at hk
    cases hk
  have hatoms : jsonConstants.find? (fun constant => constant.1.isPrefixOf (n.text ++ r)) = none ∧
      nonFiniteConstants.find? (fun constant => constant.isPrefixOf (n.text ++ r)) = none := by
    rcases hminus with hminus | ⟨k, hk, hminus⟩
    · have htext : n.text ++ r = c :: (t ++ n.tail ++ r) := by
        simp [Numeral.text, hminus, hct]
      rw [htext]
      constructor
      · simp only [jsonConstants, List.find?_cons, List.find?_nil]
        rw [show lit "null" = 110 :: lit "ull" from rfl, show lit "true" = 116 :: lit "rue" from rfl,
          show lit "false" = 102 :: lit "alse" from rfl, isPrefixOf_of_head (hnot _ (by decide)),
          isPrefixOf_of_head (hnot _ (by decide)), isPrefixOf_of_head (hnot _ (by decide))]
      · simp only [nonFiniteConstants, List.find?_cons, List.find?_nil]
        rw [show lit "NaN" = 78 :: lit "aN" from rfl, show lit "Infinity" = 73 :: lit "nfinity" from rfl,
          show lit "-Infinity" = 45 :: lit "Infinity" from rfl, isPrefixOf_of_head (hnot _ (by decide)),
          isPrefixOf_of_head (hnot _ (by decide)), isPrefixOf_of_head (hnot _ (by decide))]
    · obtain rfl := List.mem_singleton.mp hk
      have htext : n.text ++ r = 45 :: c :: (t ++ n.tail ++ r) := by
        simp [Numeral.text, hminus, hct]
      rw [htext]
      constructor
      · simp only [jsonConstants, List.find?_cons, List.find?_nil]
        rfl
      · simp only [nonFiniteConstants, List.find?_cons, List.find?_nil]
        rw [show lit "-Infinity" = 45 :: 73 :: lit "nfinity" from rfl, List.isPrefixOf_cons_cons,
          isPrefixOf_of_head (hnot _ (by decide))]
        rfl
  simp only [scanAtom, hatoms.1, hatoms.2, hscan]
  rfl

def intNumeral (i : Int) : Numeral := ⟨if i < 0 then [45] else [], decimal i.natAbs, []⟩

theorem intNumeral_formed (i : Int) : (intNumeral i).Formed := by
  refine ⟨?_, isWhole_decimal _, [], [], .inl rfl, .inl rfl, rfl⟩
  unfold intNumeral
  split
  · exact .inr ⟨45, List.mem_singleton.mpr rfl, rfl⟩
  · exact .inl rfl

theorem intNumeral_text (i : Int) : (intNumeral i).text = decimalInt i := by
  unfold intNumeral decimalInt Numeral.text
  split
  · rw [List.append_nil]
    rfl
  · rw [List.append_nil, List.nil_append]

theorem readNumeral_int {i : Int} (h : (decimal i.natAbs).length ≤ intMaxStrDigits) :
    readNumeral codec (intNumeral i) = .ok (.int i) := by
  have hdigits : parseDigits (decimal i.natAbs) = some i.natAbs := by
    simpa [padded] using parseDigits_padded 0 i.natAbs
  have hfits : ¬intMaxStrDigits < (intNumeral i).whole.length := Nat.not_lt.mpr h
  rw [readNumeral, if_pos (show (intNumeral i).tail = [] from rfl), raiseIf_of_not hfits]
  simp only [intNumeral, hdigits, Option.getD_some]
  by_cases hi : i < 0
  · have hnegative : -(i.natAbs : Int) = i := by omega
    rw [if_pos hi, if_neg (List.cons_ne_nil _ _), hnegative]
    rfl
  · have hpositive : (i.natAbs : Int) = i := by omega
    rw [if_neg hi, if_pos rfl, hpositive]
    rfl

def legible : Number → Bool
  | .int i => decide ((decimal i.natAbs).length ≤ intMaxStrDigits)
  | .float x => x.isFinite

theorem scanAtom_number {n : Number} (h : legible n = true) {r : Str} (hr : Ends r) :
    scanAtom codec (canonicalText codec.repr (.num n) ++ r) = .ok (.num n, r) := by
  cases n with
  | int i =>
    rw [canonicalText, ← intNumeral_text, scanAtom_numeral (intNumeral_formed i) hr,
      readNumeral_int (of_decide_eq_true h)]
    rfl
  | float x =>
    obtain ⟨n, hformed, htail, htext⟩ := codec.formed x h
    rw [canonicalText, htext, scanAtom_numeral hformed hr, readNumeral, if_neg htail, ← htext,
      codec.float_repr x h]
    rfl

end Atoms

section Values

variable {codec : FloatCodec} {key : Str → Bool}

theorem skip_cons {c : CodePoint} (h : isSpacing c = false) (s : Str) : skip (c :: s) = c :: s :=
  List.dropWhile_cons_of_neg (by simp [h])

theorem firstDuplicate_eq_none {seen keys : List Str} :
    firstDuplicate seen keys = none ↔ keys.Nodup ∧ ∀ k ∈ keys, k ∉ seen := by
  induction keys generalizing seen with
  | nil => simp [firstDuplicate]
  | cons k keys ih =>
    unfold firstDuplicate
    split
    · rename_i hk
      simp only [reduceCtorEq, List.mem_cons, forall_eq_or_imp, false_iff, not_and]
      exact fun _ hnot => absurd hk hnot
    · rename_i hk
      rw [ih, List.nodup_cons]
      constructor
      · rintro ⟨hnodup, hnot⟩
        refine ⟨⟨fun hmem => hnot k hmem List.mem_cons_self, hnodup⟩,
          List.forall_mem_cons.mpr ⟨hk, fun j hj hseen => hnot j hj (List.mem_cons_of_mem _ hseen)⟩⟩
      · rintro ⟨⟨hfresh, hnodup⟩, hnot⟩
        refine ⟨hnodup, fun j hj hmem => ?_⟩
        rcases List.mem_cons.mp hmem with rfl | hseen
        · exact hfresh hj
        · exact hnot j (List.mem_cons_of_mem _ hj) hseen

theorem uniqueObject_of_nodup {fields : List (Str × Json)} (h : (fields.map Prod.fst).Nodup) :
    uniqueObject fields = .ok (.obj fields) := by
  rw [uniqueObject, firstDuplicate_eq_none.mpr ⟨h, fun _ _ => List.not_mem_nil⟩]

theorem number_head {n : Number} (h : legible n = true) (r : Str) :
    ∃ c t, canonicalText codec.repr (.num n) ++ r = c :: t ∧ (isNumeral c = true ∨ c = 45) := by
  have hhead (m : Numeral) (hm : m.Formed) : ∃ c t, m.text ++ r = c :: t ∧ (isNumeral c = true ∨ c = 45) := by
    rcases hm.minus with hminus | ⟨k, hk, hminus⟩
    · have hne : m.whole ≠ [] := by
        rcases hm.whole with hwhole | ⟨_, _, hwhole, -⟩ <;> simp [hwhole]
      obtain ⟨c, t, hct⟩ := List.exists_cons_of_ne_nil hne
      refine ⟨c, t ++ m.tail ++ r, by simp [Numeral.text, hminus, hct], .inl ?_⟩
      exact isNumeral_of_whole hm.whole (by rw [hct]; exact List.mem_cons_self)
    · obtain rfl := List.mem_singleton.mp hk
      exact ⟨45, m.whole ++ m.tail ++ r, by simp [Numeral.text, hminus], .inr rfl⟩
  cases n with
  | int i =>
    rw [canonicalText, ← intNumeral_text]
    exact hhead _ (intNumeral_formed i)
  | float x =>
    obtain ⟨m, hm, -, htext⟩ := codec.formed x h
    rw [canonicalText, htext]
    exact hhead m hm

theorem text_head {v : Json} (h : shaped increasing legible key v = true) (r : Str) :
    ∃ c t, canonicalText codec.repr v ++ r = c :: t ∧ isSpacing c = false ∧ c ≠ 93 := by
  cases v with
  | null => exact ⟨110, _, rfl, rfl, by decide⟩
  | bool b => cases b <;> exact ⟨_, _, rfl, rfl, by decide⟩
  | num n =>
    obtain ⟨c, t, hct, hc⟩ := number_head h r
    refine ⟨c, t, hct, ?_, ?_⟩
    · rcases hc with hc | rfl
      · have hbounds : 48 ≤ c.val ∧ c.val ≤ 57 := of_decide_eq_true hc
        simp only [isSpacing, decide_eq_false_iff_not]
        rintro (rfl | rfl | rfl | rfl) <;> exact absurd hbounds (by decide)
      · rfl
    · rintro rfl
      rcases hc with hc | hc <;> cases hc
  | str s => exact ⟨34, _, rfl, rfl, by decide⟩
  | arr items => exact ⟨91, _, rfl, rfl, by decide⟩
  | obj fields => exact ⟨123, _, rfl, rfl, by decide⟩

theorem skip_text {v : Json} (h : shaped increasing legible key v = true) (r : Str) :
    skip (canonicalText codec.repr v ++ r) = canonicalText codec.repr v ++ r := by
  obtain ⟨c, t, hct, hc, -⟩ := text_head h r
  rw [hct, skip_cons hc]

def Scans (codec : FloatCodec) (v : Json) : Prop :=
  ∀ fuel r, 2 * (canonicalText codec.repr v).length ≤ fuel + 1 → Ends r →
    scanValue codec fuel (canonicalText codec.repr v ++ r) = .ok (v, r)

theorem ends_cons {c : CodePoint} (h : c = 44 ∨ c = 93 ∨ c = 125) (r : Str) : Ends (c :: r) := by
  rintro d ⟨⟩
  exact h

theorem scanItems_text {v : Json} {items : List Json} (hv : ∀ w ∈ v :: items, Scans codec w)
    (hshaped : ∀ w ∈ v :: items, shaped increasing legible key w = true) {fuel : Nat} {r : Str}
    (hfuel : 2 * (joinComma ((v :: items).map (canonicalText codec.repr))).length ≤ fuel) :
    scanItems codec fuel (joinComma ((v :: items).map (canonicalText codec.repr)) ++ 93 :: r) =
      .ok (v :: items, r) := by
  induction items generalizing v fuel with
  | nil =>
    obtain ⟨c, t, hct, -⟩ := @text_head codec key v (hshaped v List.mem_cons_self) []
    simp only [List.map_cons, List.map_nil, joinComma, List.flatMap_nil, List.append_nil] at hfuel hct ⊢
    have hpositive : 0 < (canonicalText codec.repr v).length := by simp [hct]
    obtain ⟨fuel, rfl⟩ : ∃ f, fuel = f + 1 := ⟨fuel - 1, by omega⟩
    have hscan := hv v List.mem_cons_self fuel (93 :: r) (by omega) (ends_cons (by simp) r)
    rw [scanItems, hscan]
    rfl
  | cons w items ih =>
    simp only [List.map_cons, joinComma, List.flatMap_cons, List.length_append, List.append_assoc,
      List.cons_append, List.length_cons] at hfuel ⊢
    obtain ⟨fuel, rfl⟩ : ∃ f, fuel = f + 1 := ⟨fuel - 1, by omega⟩
    have hscan := hv v List.mem_cons_self fuel
      (44 :: (canonicalText codec.repr w ++
        ((items.map (canonicalText codec.repr)).flatMap (44 :: ·) ++ 93 :: r)))
      (by omega) (ends_cons (by simp) _)
    have hrest := @ih w (fun u hu => hv u (List.mem_cons_of_mem _ hu))
      (fun u hu => hshaped u (List.mem_cons_of_mem _ hu)) fuel
      (by simp only [List.map_cons, joinComma, List.length_append]; omega)
    simp only [List.map_cons, joinComma, List.append_assoc] at hrest
    rw [scanItems, hscan]
    dsimp only [bind, Except.bind]
    rw [skip_cons (by decide)]
    dsimp only
    rw [if_neg (by decide), raiseIf_of_not (by decide), skip_text (hshaped w (by simp)), hrest]
    rfl

theorem scanKey_quoted (k r : Str) {c : CodePoint} {t : Str} (hr : r = c :: t) (hc : isSpacing c = false) :
    scanKey (quoted k ++ 58 :: r) = .ok (k, r) := by
  have hquoted : quoted k ++ 58 :: r = 34 :: (k.flatMap escapeControl ++ 34 :: 58 :: r) := by
    simp [quoted]
  rw [hquoted, scanKey, raiseIf_of_not (by decide), scanText_escaped]
  dsimp only [bind, Except.bind, demand]
  rw [skip_cons (by decide)]
  dsimp only
  rw [raiseIf_of_not (by decide), joinScanned_controls, hr, skip_cons hc]
  rfl

def fieldText (codec : FloatCodec) (field : Str × Json) : Str :=
  quoted field.1 ++ 58 :: canonicalText codec.repr field.2

theorem scanFields_text {field : Str × Json} {fields : List (Str × Json)}
    (hv : ∀ f ∈ field :: fields, Scans codec f.2)
    (hshaped : ∀ f ∈ field :: fields, shaped increasing legible key f.2 = true) {fuel : Nat} {r : Str}
    (hfuel : 2 * (joinComma ((field :: fields).map (fieldText codec))).length ≤ fuel) :
    scanFields codec fuel (joinComma ((field :: fields).map (fieldText codec)) ++ 125 :: r) =
      .ok (field :: fields, r) := by
  have hlength (f : Str × Json) :
      (canonicalText codec.repr f.2).length + 2 ≤ (fieldText codec f).length := by
    simp only [fieldText, quoted, List.length_append, List.length_cons, List.length_nil]
    omega
  have hkey (f : Str × Json) (hf : f ∈ field :: fields) (s : Str) :
      scanKey (fieldText codec f ++ s) = .ok (f.1, canonicalText codec.repr f.2 ++ s) := by
    obtain ⟨c, t, hct, hc, -⟩ := @text_head codec key f.2 (hshaped f hf) s
    rw [fieldText, List.append_assoc, List.cons_append, scanKey_quoted _ _ hct hc]
  induction fields generalizing field fuel with
  | nil =>
    have hfits := hlength field
    simp only [List.map_cons, List.map_nil, joinComma, List.flatMap_nil, List.append_nil] at hfuel ⊢
    obtain ⟨fuel, rfl⟩ : ∃ f, fuel = f + 1 := ⟨fuel - 1, by omega⟩
    have hscan := hv field List.mem_cons_self fuel (125 :: r) (by omega) (ends_cons (by simp) r)
    rw [scanFields, hkey field List.mem_cons_self]
    dsimp only [bind, Except.bind]
    rw [hscan]
    rfl
  | cons next fields ih =>
    have hfits := hlength field
    simp only [List.map_cons, joinComma, List.flatMap_cons, List.length_append, List.append_assoc,
      List.cons_append, List.length_cons] at hfuel ⊢
    obtain ⟨fuel, rfl⟩ : ∃ f, fuel = f + 1 := ⟨fuel - 1, by omega⟩
    have hscan := hv field List.mem_cons_self fuel
      (44 :: (fieldText codec next ++
        ((fields.map (fieldText codec)).flatMap (44 :: ·) ++ 125 :: r)))
      (by omega) (ends_cons (by simp) _)
    have hrest := @ih next (fun f hf => hv f (List.mem_cons_of_mem _ hf))
      (fun f hf => hshaped f (List.mem_cons_of_mem _ hf)) fuel
      (by simp only [List.map_cons, joinComma, List.length_append]; omega)
      (fun f hf => hkey f (List.mem_cons_of_mem _ hf))
    simp only [List.map_cons, joinComma, List.append_assoc] at hrest
    have hquote (s : Str) : skip (fieldText codec next ++ s) = fieldText codec next ++ s := by
      rw [fieldText, quoted, List.cons_append, List.cons_append, skip_cons (by decide)]
    rw [scanFields, hkey field List.mem_cons_self]
    dsimp only [bind, Except.bind]
    rw [hscan]
    dsimp only
    rw [skip_cons (by decide)]
    dsimp only
    rw [if_neg (by decide), raiseIf_of_not (by decide), hquote, hrest]
    rfl

theorem scans_atom {v : Json} (hhead : ∀ r, ∃ c t, canonicalText codec.repr v ++ r = c :: t ∧
      c ≠ 34 ∧ c ≠ 91 ∧ c ≠ 123)
    (hatom : ∀ r, Ends r → scanAtom codec (canonicalText codec.repr v ++ r) = .ok (v, r)) :
    Scans codec v := by
  intro fuel r hfuel hr
  obtain ⟨c, t, hct, hquote, hlist, hobject⟩ := hhead r
  obtain ⟨d, u, hdu, -⟩ := hhead []
  rw [List.append_nil] at hdu
  rw [hdu, List.length_cons] at hfuel
  obtain ⟨fuel, rfl⟩ : ∃ f, fuel = f + 1 := ⟨fuel - 1, by omega⟩
  rw [← hatom r hr, hct, scanValue]
  simp only [if_neg hquote, if_neg hlist, if_neg hobject]

theorem scans_number {n : Number} (h : legible n = true) : Scans codec (.num n) := by
  refine scans_atom (fun r => ?_) (fun r hr => scanAtom_number h hr)
  obtain ⟨c, t, hct, hc⟩ := @number_head codec n h r
  refine ⟨c, t, hct, ?_⟩
  rcases hc with hc | rfl
  · have hbounds : 48 ≤ c.val ∧ c.val ≤ 57 := of_decide_eq_true hc
    refine ⟨?_, ?_, ?_⟩ <;> (rintro rfl; exact absurd hbounds (by decide))
  · decide

theorem scans_text {v : Json} (h : shaped increasing legible key v = true) : Scans codec v := by
  induction v using inductOn with
  | null => exact scans_atom (fun r => ⟨110, _, rfl, by decide⟩) (fun r _ => rfl)
  | bool b =>
    cases b
    · exact scans_atom (fun r => ⟨102, _, rfl, by decide⟩) (fun r _ => rfl)
    · exact scans_atom (fun r => ⟨116, _, rfl, by decide⟩) (fun r _ => rfl)
  | num n => exact scans_number h
  | str s =>
    intro fuel r hfuel hr
    rw [canonicalText, quoted, List.length_cons] at hfuel
    obtain ⟨fuel, rfl⟩ : ∃ f, fuel = f + 1 := ⟨fuel - 1, by omega⟩
    have htext : canonicalText codec.repr (.str s) ++ r = 34 :: (s.flatMap escapeControl ++ 34 :: r) := by
      simp [canonicalText, quoted]
    rw [htext, scanValue]
    simp only [if_true, scanText_escaped, demand]
    dsimp only [bind, Except.bind]
    rw [joinScanned_controls]
    rfl
  | arr items ih =>
    intro fuel r hfuel hr
    have hitems := shapedItems_iff.mp h
    rw [canonicalText, itemTexts_eq] at hfuel ⊢
    simp only [List.length_cons, List.length_append, List.length_nil] at hfuel
    obtain ⟨fuel, rfl⟩ : ∃ f, fuel = f + 1 := ⟨fuel - 1, by omega⟩
    rw [List.cons_append, List.append_assoc, scanValue, if_neg (by decide), if_pos rfl]
    cases items with
    | nil => rfl
    | cons v items =>
      have hscan := @scanItems_text codec key v items
        (fun w hw => ih w hw (hitems w hw)) hitems fuel r (by omega)
      have hfirst := @text_head codec key v (hitems v List.mem_cons_self)
        ((items.map (canonicalText codec.repr)).flatMap (44 :: ·) ++ 93 :: r)
      obtain ⟨c, t, hct, hspace, hclose⟩ := hfirst
      rw [List.map_cons, joinComma, List.append_assoc] at hscan ⊢
      rw [List.singleton_append, hct, skip_cons hspace]
      dsimp only
      rw [if_neg hclose, ← hct, hscan]
      rfl
  | obj fields ih =>
    intro fuel r hfuel hr
    obtain ⟨hsorted, hfields⟩ := shaped_obj.mp h
    have hnodup : (fields.map Prod.fst).Nodup :=
      nodup_of_distinct (hsorted.imp fun hab => distinct_of_increasing hab)
    rw [text_obj _ hsorted] at hfuel ⊢
    change 2 * (123 :: (joinComma (fields.map (fieldText codec)) ++ [125])).length ≤ fuel + 1 at hfuel
    change scanValue codec fuel (123 :: (joinComma (fields.map (fieldText codec)) ++ [125]) ++ r) = _
    simp only [List.length_cons, List.length_append, List.length_nil] at hfuel
    obtain ⟨fuel, rfl⟩ : ∃ f, fuel = f + 1 := ⟨fuel - 1, by omega⟩
    rw [List.cons_append, List.append_assoc, scanValue, if_neg (by decide), if_neg (by decide), if_pos rfl]
    cases fields with
    | nil => rfl
    | cons field fields =>
      have hscan := @scanFields_text codec key field fields
        (fun f hf => ih f hf (hfields f hf).2) (fun f hf => (hfields f hf).2)
        fuel r (by omega)
      obtain ⟨t, ht⟩ : ∃ t, joinComma ((field :: fields).map (fieldText codec)) ++ 125 :: r = 34 :: t := by
        rw [List.map_cons, joinComma, fieldText, quoted]
        exact ⟨_, rfl⟩
      rw [List.singleton_append, ht, skip_cons (by decide)]
      dsimp only
      rw [if_neg (by decide), ← ht, hscan]
      dsimp only [bind, Except.bind]
      rw [uniqueObject_of_nodup hnodup]
      rfl

theorem scanDocument_text {v : Json} (h : shaped increasing legible key v = true) :
    scanDocument codec (canonicalText codec.repr v) = .ok v := by
  have hskip := @skip_text codec key v h []
  have hscan := @scans_text codec key v h (2 * (canonicalText codec.repr v).length + 1) []
    (by omega) (fun c hc => by cases hc)
  rw [List.append_nil] at hskip hscan
  rw [scanDocument, hskip, hscan]
  dsimp only [bind, Except.bind]
  rw [show skip [] = [] from rfl, raiseIf_of_not (by simp)]
  rfl

end Values

section Sorted

variable {number : Number → Bool} {key : Str → Bool}

theorem canonicalText_sortKeys (floatText : Double → Str) (v : Json) :
    canonicalText floatText (sortKeys v) = canonicalText floatText v := by
  induction v using inductOn with
  | null | bool b | num n | str s => rfl
  | arr items ih =>
    rw [sortKeys, canonicalText, canonicalText, itemTexts_eq, itemTexts_eq, sortItems_eq, List.map_map]
    congr 3
    exact List.map_congr_left ih
  | obj fields ih =>
    have hfields : fieldTexts floatText (sortFields fields) = fieldTexts floatText fields := by
      rw [fieldTexts_eq, fieldTexts_eq, sortFields_eq, List.map_map]
      exact List.map_congr_left fun field hf => by rw [Function.comp_apply, ih field hf]
    have hordered : fieldTexts floatText (orderBy Prod.fst (sortFields fields)) =
        orderBy Prod.fst (fieldTexts floatText (sortFields fields)) := by
      rw [fieldTexts_eq, fieldTexts_eq, orderBy_map fun _ => rfl]
    rw [sortKeys, canonicalText, canonicalText, hordered, hfields,
      orderBy_of_pairwise (orderBy_pairwise Prod.fst _)]

theorem shaped_sortKeys {v : Json} (h : shaped distinct number key v = true) :
    shaped increasing number key (sortKeys v) = true := by
  induction v using inductOn with
  | null | bool b | num n | str s => exact h
  | arr items ih =>
    rw [sortKeys, sortItems_eq]
    refine shapedItems_iff.mpr fun w hw => ?_
    obtain ⟨v, hv, rfl⟩ := List.mem_map.mp hw
    exact ih v hv (shapedItems_iff.mp h v hv)
  | obj fields ih =>
    obtain ⟨hdistinct, hfields⟩ := shaped_obj.mp h
    rw [sortKeys]
    refine shaped_obj.mpr ⟨?_, fun field hf => ?_⟩
    · have hordered := orderBy_pairwise Prod.fst (sortFields fields)
      have hnodup : ((orderBy Prod.fst (sortFields fields)).map Prod.fst).Nodup := by
        rw [((orderBy_perm Prod.fst (sortFields fields)).map Prod.fst).nodup_iff, keys_sortFields]
        exact nodup_of_distinct hdistinct
      rw [List.Nodup, List.pairwise_map] at hnodup
      exact (hordered.and hnodup).imp fun hab => decide_eq_true (lt_of_le_of_ne hab.1 hab.2)
    · have hmem := mem_orderBy.mp hf
      rw [sortFields_eq] at hmem
      obtain ⟨original, horiginal, rfl⟩ := List.mem_map.mp hmem
      exact ⟨(hfields original horiginal).1, ih original horiginal (hfields original horiginal).2⟩

theorem scanDocument_canonical {codec : FloatCodec} {v : Json}
    (h : shaped distinct legible key v = true) :
    scanDocument codec (canonicalText codec.repr v) = .ok (sortKeys v) := by
  rw [← canonicalText_sortKeys]
  exact scanDocument_text (shaped_sortKeys h)

end Sorted

end Json

