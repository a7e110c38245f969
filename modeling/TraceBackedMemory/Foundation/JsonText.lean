import TraceBackedMemory.Foundation.JsonString
import TraceBackedMemory.Foundation.OrderBy

namespace Text

def escapeControl (c : CodePoint) : Str :=
  match shortEscape? c with
  | some e => [92, e]
  | none => if c.val < 32 then unicodeEscape c.val else [c]

def quoted (s : Str) : Str := 34 :: (s.flatMap escapeControl ++ [34])

def joinComma : List Str → Str
  | [] => []
  | t :: l => t ++ l.flatMap (44 :: ·)

end Text

namespace Json

open Text OrderBy

inductive PyType where
  | none
  | bool
  | int
  | float
  | str
  | list
  | dict
  deriving DecidableEq

def pyType : Json → PyType
  | .null => .none
  | .bool _ => .bool
  | .num (.int _) => .int
  | .num (.float _) => .float
  | .str _ => .str
  | .arr _ => .list
  | .obj _ => .dict

section Encoding

variable (floatText : Double → Str)

mutual

def canonicalText : Json → Str
  | .null => lit "null"
  | .bool b => if b then lit "true" else lit "false"
  | .num (.int n) => decimalInt n
  | .num (.float x) => floatText x
  | .str s => quoted s
  | .arr items => 91 :: (joinComma (itemTexts items) ++ [93])
  | .obj fields =>
    123 :: (joinComma ((orderBy Prod.fst (fieldTexts fields)).map
      (fun field => quoted field.1 ++ 58 :: field.2)) ++ [125])

def itemTexts : List Json → List Str
  | [] => []
  | v :: l => canonicalText v :: itemTexts l

def fieldTexts : List (Str × Json) → List (Str × Str)
  | [] => []
  | (k, v) :: l => (k, canonicalText v) :: fieldTexts l

end

end Encoding

section Shapes

variable (order : Str → Str → Bool) (number : Number → Bool) (key : Str → Bool)

mutual

def shaped : Json → Bool
  | .num n => number n
  | .arr items => shapedItems items
  | .obj fields => decide (fields.Pairwise (fun a b => order a.1 b.1 = true)) && shapedFields fields
  | _ => true

def shapedItems : List Json → Bool
  | [] => true
  | v :: l => shaped v && shapedItems l

def shapedFields : List (Str × Json) → Bool
  | [] => true
  | (k, v) :: l => key k && shaped v && shapedFields l

end

end Shapes

def isInt : Number → Bool
  | .int _ => true
  | .float _ => false

def increasing (a b : Str) : Bool := decide (a < b)

def Plain (v : Json) : Prop := shaped increasing isInt (fun _ => true) v = true

end Json

namespace Text

section Quoting

theorem escapeControl_cases (c : CodePoint) :
    (∃ e, shortEscape? c = some e ∧ escapeControl c = [92, e]) ∨
      (c.val < 32 ∧ escapeControl c = unicodeEscape c.val) ∨
        (c ≠ 92 ∧ c ≠ 34 ∧ escapeControl c = [c]) := by
  unfold escapeControl
  cases h : shortEscape? c with
  | some e => exact .inl ⟨e, rfl, rfl⟩
  | none =>
    refine .inr ?_
    by_cases hc : c.val < 32
    · exact .inl ⟨hc, if_pos hc⟩
    · refine .inr ⟨?_, ?_, if_neg hc⟩
      · rintro rfl
        cases h
      · rintro rfl
        cases h

theorem escapeControl_head (c : CodePoint) (s : Str) : ∃ d t, escapeControl c ++ s = d :: t ∧ d ≠ 34 := by
  rcases escapeControl_cases c with ⟨e, -, h⟩ | ⟨-, h⟩ | ⟨-, hq, h⟩
  · exact ⟨92, e :: s, by rw [h]; rfl, by decide⟩
  · exact ⟨92, _, by rw [h]; rfl, by decide⟩
  · exact ⟨c, s, by rw [h]; rfl, hq⟩

theorem escapeControl_prefix {c d : CodePoint} {s t : Str}
    (h : escapeControl c ++ s = escapeControl d ++ t) : c = d ∧ s = t := by
  rcases escapeControl_cases c with ⟨e, he, hc⟩ | ⟨hlow, hc⟩ | ⟨hb, -, hc⟩ <;>
    rcases escapeControl_cases d with ⟨f, hf, hd⟩ | ⟨hlow', hd⟩ | ⟨hb', -, hd⟩ <;>
    rw [hc, hd] at h
  · obtain ⟨rfl, rfl⟩ : e = f ∧ s = t := by simpa using h
    have hcd := (shortUnescape_of_shortEscape he).2.symm.trans (shortUnescape_of_shortEscape hf).2
    exact ⟨Option.some.inj hcd, rfl⟩
  · have hu : e = 117 := by simp only [unicodeEscape, List.cons_append, List.cons.injEq] at h; exact h.2.1
    exact absurd hu (shortUnescape_of_shortEscape he).1
  · exact absurd (List.cons.inj h).1.symm hb'
  · have hu : 117 = f := by simp only [unicodeEscape, List.cons_append, List.cons.injEq] at h; exact h.2.1
    exact absurd hu.symm (shortUnescape_of_shortEscape hf).1
  · simp only [unicodeEscape, List.cons_append, List.nil_append, List.cons.injEq] at h
    obtain ⟨-, -, hw, hx, hy, hz, hst⟩ := h
    have hn := hexValue4_unicodeEscape (show c.val < 0x10000 by omega)
    rw [hw, hx, hy, hz, hexValue4_unicodeEscape (show d.val < 0x10000 by omega)] at hn
    exact ⟨Fin.ext (Option.some.inj hn).symm, hst⟩
  · exact absurd (List.cons.inj h).1.symm hb'
  · exact absurd (List.cons.inj h).1 hb
  · exact absurd (List.cons.inj h).1 hb
  · simpa using h

theorem quoted_prefix {s t r u : Str} (h : quoted s ++ r = quoted t ++ u) : s = t ∧ r = u := by
  replace h : s.flatMap escapeControl ++ 34 :: r = t.flatMap escapeControl ++ 34 :: u := by
    simpa [quoted] using h
  induction s generalizing t with
  | nil =>
    cases t with
    | nil => simpa using h
    | cons d t =>
      obtain ⟨e, x, hx, he⟩ := escapeControl_head d (t.flatMap escapeControl ++ 34 :: u)
      rw [List.flatMap_nil, List.nil_append, List.flatMap_cons, List.append_assoc, hx] at h
      exact absurd (List.cons.inj h).1.symm he
  | cons c s ih =>
    cases t with
    | nil =>
      obtain ⟨e, x, hx, he⟩ := escapeControl_head c (s.flatMap escapeControl ++ 34 :: r)
      rw [List.flatMap_nil, List.nil_append, List.flatMap_cons, List.append_assoc, hx] at h
      exact absurd (List.cons.inj h).1 he
    | cons d t =>
      rw [List.flatMap_cons, List.flatMap_cons, List.append_assoc, List.append_assoc] at h
      obtain ⟨rfl, hrest⟩ := escapeControl_prefix h
      obtain ⟨rfl, rfl⟩ := ih hrest
      exact ⟨rfl, rfl⟩

end Quoting

section Numerals

def isNumeral (c : CodePoint) : Bool := decide (48 ≤ c.val ∧ c.val ≤ 57)

theorem isNumeral_of_mem_decimal {n : Nat} {c : CodePoint} (h : c ∈ decimal n) :
    isNumeral c = true := by
  obtain ⟨d, hd, rfl⟩ := List.mem_map.mp h
  have hdigit : 48 ≤ d.toNat ∧ d.toNat ≤ 57 :=
    Char.isDigit_iff_toNat.mp (Nat.isDigit_of_mem_toDigits (by omega) (by omega) hd)
  have hval : (cp d).val = d.toNat := by
    simp only [cp, Fin.ofNat]
    exact Nat.mod_eq_of_lt (by omega)
  simp only [isNumeral, hval, decide_eq_true_eq]
  exact hdigit

theorem decimal_injective : Function.Injective decimal := by
  intro m n h
  apply padded_injective 0
  simpa [padded] using h

def Stops (s : Str) : Prop := ∀ c ∈ s.head?, isNumeral c = false

theorem takeWhile_numerals {s r : Str} (hs : ∀ c ∈ s, isNumeral c = true) (hr : Stops r) :
    (s ++ r).takeWhile isNumeral = s := by
  rw [List.takeWhile_append_of_pos hs]
  cases r with
  | nil => simp
  | cons c r =>
    have hc : isNumeral c = false := hr c rfl
    simp [hc]

theorem decimal_prefix {m n : Nat} {r s : Str} (hr : Stops r) (hs : Stops s)
    (h : decimal m ++ r = decimal n ++ s) : m = n ∧ r = s := by
  have htake := congrArg (List.takeWhile isNumeral) h
  rw [takeWhile_numerals (fun _ => isNumeral_of_mem_decimal) hr,
    takeWhile_numerals (fun _ => isNumeral_of_mem_decimal) hs] at htake
  obtain rfl := decimal_injective htake
  exact ⟨rfl, List.append_cancel_left h⟩

theorem decimal_head (n : Nat) : ∃ c t, decimal n = c :: t ∧ isNumeral c = true := by
  obtain ⟨c, t, h⟩ := List.exists_cons_of_ne_nil (decimal_ne_nil n)
  exact ⟨c, t, h, isNumeral_of_mem_decimal (by rw [h]; exact List.mem_cons_self)⟩

theorem decimalInt_prefix {m n : Int} {r s : Str} (hr : Stops r) (hs : Stops s)
    (h : decimalInt m ++ r = decimalInt n ++ s) : m = n ∧ r = s := by
  have hminus (k : Nat) (u v : Str) : lit "-" ++ u ≠ decimal k ++ v := by
    intro heq
    obtain ⟨c, t, hc, hnum⟩ := decimal_head k
    rw [hc] at heq
    obtain rfl : cp '-' = c := (List.cons.inj heq).1
    cases hnum
  unfold decimalInt at h
  split at h <;> split at h
  · rw [List.append_assoc, List.append_assoc] at h
    obtain ⟨hmn, hrest⟩ := decimal_prefix hr hs (List.append_cancel_left h)
    exact ⟨by omega, hrest⟩
  · rw [List.append_assoc] at h
    exact absurd h (hminus _ _ _)
  · rw [List.append_assoc] at h
    exact absurd h.symm (hminus _ _ _)
  · obtain ⟨hmn, hrest⟩ := decimal_prefix hr hs h
    exact ⟨by omega, hrest⟩

end Numerals

end Text

namespace Json

open Text OrderBy

section Induction

variable {motive : Json → Prop}

mutual

theorem inductOn (null : motive .null) (bool : ∀ b, motive (.bool b)) (num : ∀ n, motive (.num n))
    (str : ∀ s, motive (.str s)) (arr : ∀ items, (∀ v ∈ items, motive v) → motive (.arr items))
    (obj : ∀ fields, (∀ field ∈ fields, motive field.2) → motive (.obj fields)) :
    (v : Json) → motive v
  | .null => null
  | .bool b => bool b
  | .num n => num n
  | .str s => str s
  | .arr items => arr items (inductItems null bool num str arr obj items)
  | .obj fields => obj fields (inductFields null bool num str arr obj fields)

theorem inductItems (null : motive .null) (bool : ∀ b, motive (.bool b))
    (num : ∀ n, motive (.num n)) (str : ∀ s, motive (.str s))
    (arr : ∀ items, (∀ v ∈ items, motive v) → motive (.arr items))
    (obj : ∀ fields, (∀ field ∈ fields, motive field.2) → motive (.obj fields)) :
    (items : List Json) → ∀ v ∈ items, motive v
  | [] => nofun
  | v :: l => List.forall_mem_cons.mpr
      ⟨inductOn null bool num str arr obj v, inductItems null bool num str arr obj l⟩

theorem inductFields (null : motive .null) (bool : ∀ b, motive (.bool b))
    (num : ∀ n, motive (.num n)) (str : ∀ s, motive (.str s))
    (arr : ∀ items, (∀ v ∈ items, motive v) → motive (.arr items))
    (obj : ∀ fields, (∀ field ∈ fields, motive field.2) → motive (.obj fields)) :
    (fields : List (Str × Json)) → ∀ field ∈ fields, motive field.2
  | [] => nofun
  | (_, v) :: l => List.forall_mem_cons.mpr
      ⟨inductOn null bool num str arr obj v, inductFields null bool num str arr obj l⟩

end

theorem itemTexts_eq (floatText : Double → Str) (items : List Json) :
    itemTexts floatText items = items.map (canonicalText floatText) := by
  induction items with
  | nil => rfl
  | cons v l ih => rw [itemTexts, ih, List.map_cons]

theorem fieldTexts_eq (floatText : Double → Str) (fields : List (Str × Json)) :
    fieldTexts floatText fields =
      fields.map (fun field => (field.1, canonicalText floatText field.2)) := by
  induction fields with
  | nil => rfl
  | cons field l ih => rw [fieldTexts, ih, List.map_cons]

variable {order : Str → Str → Bool} {number : Number → Bool} {key : Str → Bool}

theorem shapedItems_iff {items : List Json} :
    shapedItems order number key items = true ↔ ∀ v ∈ items, shaped order number key v = true := by
  induction items with
  | nil => simp [shapedItems]
  | cons v l ih => simp [shapedItems, ih]

theorem shapedFields_iff {fields : List (Str × Json)} :
    shapedFields order number key fields = true ↔
      ∀ field ∈ fields, key field.1 = true ∧ shaped order number key field.2 = true := by
  induction fields with
  | nil => simp [shapedFields]
  | cons field l ih => simp [shapedFields, ih]

theorem shaped_obj {fields : List (Str × Json)} :
    shaped order number key (.obj fields) = true ↔
      fields.Pairwise (fun a b => order a.1 b.1 = true) ∧
        ∀ field ∈ fields, key field.1 = true ∧ shaped order number key field.2 = true := by
  rw [shaped, Bool.and_eq_true, decide_eq_true_eq, shapedFields_iff]

theorem shaped_imp {order' : Str → Str → Bool} {number' : Number → Bool} {key' : Str → Bool}
    (horder : ∀ a b, order a b = true → order' a b = true)
    (hnumber : ∀ n, number n = true → number' n = true) (hkey : ∀ k, key k = true → key' k = true)
    (v : Json) (h : shaped order number key v = true) : shaped order' number' key' v = true := by
  induction v using inductOn with
  | null => rfl
  | bool b => rfl
  | num n => exact hnumber n h
  | str s => rfl
  | arr items ih => exact shapedItems_iff.mpr fun v hv => ih v hv (shapedItems_iff.mp h v hv)
  | obj fields ih =>
    obtain ⟨hsorted, hfields⟩ := shaped_obj.mp h
    exact shaped_obj.mpr ⟨hsorted.imp (horder _ _), fun field hf =>
      ⟨hkey _ (hfields field hf).1, ih field hf (hfields field hf).2⟩⟩

end Induction

section Injectivity

variable (floatText : Double → Str)

def leadingType (c : CodePoint) : PyType :=
  if c = 110 then .none
  else if c = 116 ∨ c = 102 then .bool
  else if c = 34 then .str
  else if c = 91 then .list
  else if c = 123 then .dict
  else if isNumeral c = true ∨ c = 45 then .int
  else .float

theorem decimalInt_lead (n : Int) (r : Str) :
    ∃ c t, decimalInt n ++ r = c :: t ∧ leadingType c = .int := by
  unfold decimalInt
  split
  · exact ⟨45, _, rfl, rfl⟩
  · obtain ⟨c, t, hc, hnum⟩ := decimal_head n.natAbs
    refine ⟨c, t ++ r, by rw [hc]; rfl, ?_⟩
    have hc' : 48 ≤ c.val ∧ c.val ≤ 57 := of_decide_eq_true hnum
    have hne (k : CodePoint) (hk : k.val < 48 ∨ 57 < k.val) : c ≠ k := by
      rintro rfl
      omega
    simp only [leadingType, hnum, true_or, if_true, if_neg (hne 110 (by decide)),
      if_neg (hne 34 (by decide)), if_neg (hne 91 (by decide)), if_neg (hne 123 (by decide)),
      hne 116 (by decide), hne 102 (by decide), or_self, if_false]

theorem text_lead {v : Json} (hv : Plain v) (r : Str) :
    ∃ c t, canonicalText floatText v ++ r = c :: t ∧ leadingType c = v.pyType ∧ v.pyType ≠ .float := by
  cases v with
  | null => exact ⟨110, _, rfl, rfl, nofun⟩
  | bool b => cases b <;> exact ⟨_, _, rfl, rfl, nofun⟩
  | num n =>
    cases n with
    | int n =>
      obtain ⟨c, t, h, hc⟩ := decimalInt_lead n r
      exact ⟨c, t, by rw [← h, canonicalText], hc, nofun⟩
    | float x => cases hv
  | str s => exact ⟨34, _, rfl, rfl, nofun⟩
  | arr items => exact ⟨91, _, rfl, rfl, nofun⟩
  | obj fields => exact ⟨123, _, rfl, rfl, nofun⟩

theorem pyType_eq_of_shared {v w : Json} (hv : Plain v) (hw : Plain w) {r s : Str}
    (h : canonicalText floatText v ++ r = canonicalText floatText w ++ s) : v.pyType = w.pyType := by
  obtain ⟨c, t, hc, htype, -⟩ := text_lead floatText hv r
  obtain ⟨d, u, hd, htype', -⟩ := text_lead floatText hw s
  rw [hc, hd] at h
  rw [← htype, ← htype', (List.cons.inj h).1]

theorem text_ne_close {v : Json} (hv : Plain v) {r s : Str} {k : CodePoint}
    (hk : leadingType k = .float) : canonicalText floatText v ++ r ≠ k :: s := by
  intro h
  obtain ⟨c, t, hc, htype, hne⟩ := text_lead floatText hv r
  obtain rfl : c = k := (List.cons.inj (hc.symm.trans h)).1
  exact hne (htype.symm.trans hk)

theorem text_obj {fields : List (Str × Json)}
    (h : fields.Pairwise (fun a b => increasing a.1 b.1 = true)) :
    canonicalText floatText (.obj fields) =
      123 :: (joinComma (fields.map
        (fun field => quoted field.1 ++ 58 :: canonicalText floatText field.2)) ++ [125]) := by
  have hsorted : (fieldTexts floatText fields).Pairwise (fun a b => a.1 ≤ b.1) := by
    rw [fieldTexts_eq, List.pairwise_map]
    exact h.imp fun hab => le_of_lt (of_decide_eq_true hab)
  rw [canonicalText, orderBy_of_pairwise hsorted, fieldTexts_eq, List.map_map]
  rfl

theorem joinComma_prefix {α : Type} {text : α → Str} {close : CodePoint} {l m : List α}
    (hcomma : close ≠ 44) (hstop : isNumeral close = false)
    (hopen : ∀ a, a ∈ l ∨ a ∈ m → ∀ r s, text a ++ r ≠ close :: s)
    (hone : ∀ a ∈ l, ∀ b ∈ m, ∀ r s, Stops r → Stops s → text a ++ r = text b ++ s → a = b ∧ r = s)
    {r s : Str} (h : joinComma (l.map text) ++ close :: r = joinComma (m.map text) ++ close :: s) :
    l = m ∧ r = s := by
  have hnext (l : List α) (r : Str) :
      Stops ((l.map text).flatMap (44 :: ·) ++ close :: r) := by
    cases l with
    | nil =>
      rintro c ⟨⟩
      exact hstop
    | cons a l =>
      rintro c ⟨⟩
      rfl
  have htail : ∀ l m : List α, (∀ a ∈ l, ∀ b ∈ m, ∀ r s, Stops r → Stops s →
      text a ++ r = text b ++ s → a = b ∧ r = s) → ∀ r s : Str,
      (l.map text).flatMap (44 :: ·) ++ close :: r = (m.map text).flatMap (44 :: ·) ++ close :: s →
        l = m ∧ r = s := by
    intro l
    induction l with
    | nil =>
      rintro (_ | ⟨b, m⟩) - r s h
      · simpa using h
      · exact absurd (List.cons.inj h).1 hcomma
    | cons a l ih =>
      rintro (_ | ⟨b, m⟩) hone r s h
      · exact absurd (List.cons.inj h).1.symm hcomma
      · simp only [List.map_cons, List.flatMap_cons, List.cons_append, List.append_assoc] at h
        obtain ⟨rfl, hrest⟩ := hone a (by simp) b (by simp) _ _ (hnext l r) (hnext m s)
          (List.cons.inj h).2
        obtain ⟨rfl, rfl⟩ := ih m (fun x hx y hy => hone x (by simp [hx]) y (by simp [hy])) r s hrest
        exact ⟨rfl, rfl⟩
  match l, m with
  | [], [] => simpa [joinComma] using h
  | [], b :: m =>
    simp only [List.map_cons, joinComma, List.append_assoc] at h
    exact absurd h.symm (hopen b (by simp) _ _)
  | a :: l, [] =>
    simp only [List.map_cons, joinComma, List.append_assoc] at h
    exact absurd h (hopen a (by simp) _ _)
  | a :: l, b :: m =>
    simp only [List.map_cons, joinComma, List.append_assoc] at h
    obtain ⟨rfl, hrest⟩ := hone a (by simp) b (by simp) _ _ (hnext l r) (hnext m s) h
    obtain ⟨rfl, rfl⟩ := htail l m (fun x hx y hy => hone x (by simp [hx]) y (by simp [hy])) r s hrest
    exact ⟨rfl, rfl⟩

theorem pyType_form (v : Json) :
    match v.pyType with
    | .none => v = .null
    | .bool => ∃ b, v = .bool b
    | .int => ∃ n, v = .num (.int n)
    | .float => ∃ x, v = .num (.float x)
    | .str => ∃ s, v = .str s
    | .list => ∃ items, v = .arr items
    | .dict => ∃ fields, v = .obj fields := by
  cases v with
  | null => rfl
  | num n => cases n <;> exact ⟨_, rfl⟩
  | _ => exact ⟨_, rfl⟩

theorem bool_prefix {b c : Bool} {r s : Str}
    (h : canonicalText floatText (.bool b) ++ r = canonicalText floatText (.bool c) ++ s) :
    b = c ∧ r = s := by
  cases b <;> cases c
  · exact ⟨rfl, List.append_cancel_left h⟩
  · exact absurd (List.cons.inj h).1 (by decide)
  · exact absurd (List.cons.inj h).1 (by decide)
  · exact ⟨rfl, List.append_cancel_left h⟩

theorem canonicalText_split {v w : Json} (hv : Plain v) (hw : Plain w) {r s : Str}
    (hr : Stops r) (hs : Stops s)
    (h : canonicalText floatText v ++ r = canonicalText floatText w ++ s) : v = w ∧ r = s := by
  have hform := pyType_form w
  rw [← pyType_eq_of_shared floatText hv hw h] at hform
  induction v using inductOn generalizing w r s with
  | null =>
    obtain rfl : w = .null := hform
    exact ⟨rfl, List.append_cancel_left h⟩
  | bool b =>
    obtain ⟨c, rfl⟩ : ∃ c, w = .bool c := hform
    obtain ⟨rfl, rfl⟩ := bool_prefix floatText h
    exact ⟨rfl, rfl⟩
  | num n =>
    cases n with
    | float x => cases hv
    | int n =>
      obtain ⟨m, rfl⟩ : ∃ m, w = .num (.int m) := hform
      obtain ⟨rfl, rfl⟩ := decimalInt_prefix hr hs h
      exact ⟨rfl, rfl⟩
  | str t =>
    obtain ⟨u, rfl⟩ : ∃ u, w = .str u := hform
    obtain ⟨rfl, rfl⟩ := quoted_prefix h
    exact ⟨rfl, rfl⟩
  | arr items ih =>
    obtain ⟨items', rfl⟩ : ∃ items', w = .arr items' := hform
    have hitems := shapedItems_iff.mp hv
    have hitems' := shapedItems_iff.mp hw
    simp only [canonicalText, itemTexts_eq, List.cons_append, List.append_assoc, List.nil_append,
      List.cons.injEq, true_and] at h
    have hone : ∀ a ∈ items, ∀ b ∈ items', ∀ r s, Stops r → Stops s →
        canonicalText floatText a ++ r = canonicalText floatText b ++ s → a = b ∧ r = s := by
      intro a ha b hb r s hr hs hab
      refine ih a ha (hitems a ha) (hitems' b hb) hr hs hab ?_
      rw [pyType_eq_of_shared floatText (hitems a ha) (hitems' b hb) hab]
      exact pyType_form b
    obtain ⟨rfl, rfl⟩ := joinComma_prefix (by decide) rfl (fun a ha r s =>
      text_ne_close floatText (ha.elim (hitems a) (hitems' a)) rfl) hone h
    exact ⟨rfl, rfl⟩
  | obj fields ih =>
    obtain ⟨fields', rfl⟩ : ∃ fields', w = .obj fields' := hform
    obtain ⟨hsorted, hfields⟩ := shaped_obj.mp hv
    obtain ⟨hsorted', hfields'⟩ := shaped_obj.mp hw
    simp only [text_obj floatText hsorted, text_obj floatText hsorted', List.cons_append,
      List.append_assoc, List.nil_append, List.cons.injEq, true_and] at h
    have hone : ∀ a ∈ fields, ∀ b ∈ fields', ∀ r s, Stops r → Stops s →
        (quoted a.1 ++ 58 :: canonicalText floatText a.2) ++ r =
          (quoted b.1 ++ 58 :: canonicalText floatText b.2) ++ s → a = b ∧ r = s := by
      intro a ha b hb r s hr hs hab
      rw [List.append_assoc, List.append_assoc] at hab
      obtain ⟨hkey, hvalue⟩ := quoted_prefix hab
      have hvalue' := (List.cons.inj hvalue).2
      obtain ⟨hvalues, hrest⟩ := ih a ha (hfields a ha).2 (hfields' b hb).2 hr hs hvalue' (by
        rw [pyType_eq_of_shared floatText (hfields a ha).2 (hfields' b hb).2 hvalue']
        exact pyType_form b.2)
      exact ⟨Prod.ext hkey hvalues, hrest⟩
    obtain ⟨rfl, rfl⟩ := joinComma_prefix (by decide) rfl (fun a _ r s heq => by
      cases (List.cons.inj heq).1) hone h
    exact ⟨rfl, rfl⟩

theorem canonicalText_inj {v w : Json} (hv : Plain v) (hw : Plain w) :
    canonicalText floatText v = canonicalText floatText w ↔ v = w := by
  refine ⟨fun h => ?_, fun h => h ▸ rfl⟩
  have hstop : Stops [] := nofun
  exact (canonicalText_split floatText hv hw hstop hstop (congrArg (· ++ []) h)).1

end Injectivity

end Json
