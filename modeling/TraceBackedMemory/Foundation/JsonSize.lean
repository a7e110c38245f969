import TraceBackedMemory.Foundation.JsonText

namespace Text

theorem length_flatMap_le_mul {α β : Type} {f : α → List β} {k : Nat} (h : ∀ a, (f a).length ≤ k) (l : List α) :
    (l.flatMap f).length ≤ l.length * k := by
  induction l with
  | nil => exact Nat.zero_le _
  | cons a l ih =>
    have hone := h a
    rw [List.flatMap_cons, List.length_append, List.length_cons, Nat.succ_mul]
    omega

theorem length_quoted_le (s : Str) : (quoted s).length ≤ s.length * 6 + 2 := by
  have hescape (c : CodePoint) : (escapeControl c).length ≤ 6 := by
    unfold escapeControl
    split
    · exact Nat.le_add_left 2 4
    · split
      · exact le_refl 6
      · exact Nat.le_add_left 1 5
  have hbody := length_flatMap_le_mul hescape s
  rw [quoted, List.length_cons, List.length_append, List.length_singleton]
  omega

-- a text that is written as it stands
def plain (s : Str) : Prop := ∀ c ∈ s, escapeControl c = [c]

theorem plain_append {s t : Str} (hs : plain s) (ht : plain t) : plain (s ++ t) :=
  List.forall_mem_append.mpr ⟨hs, ht⟩

theorem plain_of_word {s : Str} (h : ∀ c ∈ s, 35 ≤ c.val ∧ c.val ≠ 92) : plain s := by
  intro c hc
  obtain ⟨hlow, hslash⟩ := h c hc
  have hne {d : CodePoint} (hd : d.val < 35 ∨ d.val = 92) : c ≠ d := by
    rintro rfl
    omega
  have hshort : shortEscape? c = none := by
    unfold shortEscape?
    rw [if_neg (hne (.inl (by decide))), if_neg (hne (.inr rfl)), if_neg (hne (.inl (by decide))),
      if_neg (hne (.inl (by decide))), if_neg (hne (.inl (by decide))), if_neg (hne (.inl (by decide))),
      if_neg (hne (.inl (by decide)))]
  rw [escapeControl, hshort]
  exact if_neg (by omega)

theorem plain_of_hex {s : Str} (h : s.all isLowerHex = true) : plain s := by
  refine plain_of_word fun c hc => ?_
  have hhex := List.all_eq_true.mp h c hc
  rw [isLowerHex, decide_eq_true_eq] at hhex
  omega

theorem length_quoted {s : Str} (h : plain s) : (quoted s).length = s.length + 2 := by
  have hbody : s.flatMap escapeControl = s := by
    induction s with
    | nil => rfl
    | cons c s ih =>
      have hsplit := List.forall_mem_cons.mp h
      rw [List.flatMap_cons, hsplit.1, ih hsplit.2]
      rfl
  rw [quoted, hbody, List.length_cons, List.length_append, List.length_singleton]

theorem length_joinComma_le {l : List Str} {n : Nat} (h : ∀ t ∈ l, t.length ≤ n) :
    (joinComma l).length ≤ l.length * (n + 1) := by
  have htail (l : List Str) (h : ∀ t ∈ l, t.length ≤ n) :
      (l.flatMap (fun t => (44 : CodePoint) :: t)).length ≤ l.length * (n + 1) := by
    induction l with
    | nil => exact Nat.zero_le _
    | cons t l ih =>
      rw [List.forall_mem_cons] at h
      have hrest := ih h.2
      have hfirst := h.1
      rw [List.flatMap_cons, List.length_append, List.length_cons, List.length_cons, Nat.succ_mul]
      omega
  cases l with
  | nil => exact Nat.zero_le _
  | cons t l =>
    rw [List.forall_mem_cons] at h
    have hrest := htail l h.2
    have hfirst := h.1
    rw [joinComma, List.length_append, List.length_cons, Nat.succ_mul]
    omega

theorem length_joinComma (l : List Str) : (joinComma l).length = (l.map List.length).sum + (l.length - 1) := by
  have htail (l : List Str) :
      (l.flatMap (fun t => (44 : CodePoint) :: t)).length = (l.map List.length).sum + l.length := by
    induction l with
    | nil => rfl
    | cons t l ih =>
      rw [List.flatMap_cons, List.length_append, ih, List.length_cons, List.map_cons, List.sum_cons, List.length_cons]
      omega
  cases l with
  | nil => rfl
  | cons t l =>
    rw [joinComma, List.length_append, htail, List.map_cons, List.sum_cons, List.length_cons]
    omega

theorem sum_utf8Length_le (s : Str) : (s.map utf8Length).sum ≤ s.length * 4 := by
  have hone (c : CodePoint) : utf8Length c ≤ 4 := by
    unfold utf8Length
    split_ifs <;> omega
  induction s with
  | nil => exact Nat.zero_le _
  | cons c s ih =>
    have hfirst := hone c
    rw [List.map_cons, List.sum_cons, List.length_cons, Nat.succ_mul]
    omega

end Text

namespace Json

open Text OrderBy

variable {floatText : Double → Str}

-- a value whose canonical text has at most n characters
def Slim (floatText : Double → Str) (n : Nat) (v : Json) : Prop := (canonicalText floatText v).length ≤ n

theorem Slim.mono {m n : Nat} {v : Json} (h : Slim floatText m v) (hle : m ≤ n) : Slim floatText n v := le_trans h hle

theorem slim_null : Slim floatText 4 .null := by
  rw [Slim, canonicalText]
  decide

theorem slim_bool (b : Bool) : Slim floatText 5 (.bool b) := by
  rw [Slim, canonicalText]
  cases b <;> decide

theorem slim_str {s : Str} {n : Nat} (h : s.length ≤ n) : Slim floatText (n * 6 + 2) (.str s) := by
  have hquoted := length_quoted_le s
  rw [Slim, canonicalText]
  omega

theorem slim_arr {items : List Json} {n : Nat} (h : ∀ v ∈ items, Slim floatText n v) :
    Slim floatText (items.length * (n + 1) + 2) (.arr items) := by
  have hbody := length_joinComma_le (List.forall_mem_map.mpr h)
  rw [List.length_map] at hbody
  rw [Slim, canonicalText, itemTexts_eq, List.length_cons, List.length_append, List.length_singleton]
  omega

theorem slim_obj {fields : List (Str × Json)} {k n : Nat} (hkeys : ∀ f ∈ fields, f.1.length ≤ k)
    (h : ∀ f ∈ fields, Slim floatText n f.2) :
    Slim floatText (fields.length * (k * 6 + n + 4) + 2) (.obj fields) := by
  have hfields : ∀ t ∈ (orderBy Prod.fst (fieldTexts floatText fields)).map (fun field => quoted field.1 ++ 58 :: field.2),
      t.length ≤ k * 6 + n + 3 := by
    rw [List.forall_mem_map]
    intro field hfield
    rw [fieldTexts_eq, mem_orderBy] at hfield
    obtain ⟨f, hf, rfl⟩ := List.mem_map.mp hfield
    have hquoted := length_quoted_le f.1
    have hkey := hkeys f hf
    have hvalue : (canonicalText floatText f.2).length ≤ n := h f hf
    rw [List.length_append, List.length_cons]
    dsimp only
    omega
  have hbody := length_joinComma_le hfields
  rw [List.length_map, (orderBy_perm _ _).length_eq, fieldTexts_eq, List.length_map] at hbody
  rw [Slim, canonicalText, fieldTexts_eq, List.length_cons, List.length_append, List.length_singleton]
  exact Nat.add_le_add_right hbody 2

def fieldLength (floatText : Double → Str) (f : Str × Json) : Nat :=
  (quoted f.1).length + (canonicalText floatText f.2).length + 1

theorem length_obj (fields : List (Str × Json)) : (canonicalText floatText (.obj fields)).length =
    (fields.map (fieldLength floatText)).sum + (fields.length - 1) + 2 := by
  have hperm := (orderBy_perm Prod.fst (fieldTexts floatText fields)).map (fun field => quoted field.1 ++ 58 :: field.2)
  have hlengths : ((fieldTexts floatText fields).map (fun field => quoted field.1 ++ 58 :: field.2)).map List.length =
      fields.map (fieldLength floatText) := by
    rw [fieldTexts_eq, List.map_map, List.map_map]
    refine List.map_congr_left fun f _ => ?_
    rw [Function.comp_apply, Function.comp_apply, List.length_append, List.length_cons]
    rfl
  rw [canonicalText, List.length_cons, List.length_append, List.length_singleton, length_joinComma,
    (hperm.map List.length).sum_nat, hperm.length_eq, hlengths, List.length_map, fieldTexts_eq, List.length_map]

-- two groups of fields with bounds of their own
theorem slim_append {front back : List (Str × Json)} {m n : Nat} (hfront : Slim floatText m (.obj front))
    (hback : Slim floatText n (.obj back)) : Slim floatText (m + n) (.obj (front ++ back)) := by
  rw [Slim, length_obj] at hfront hback ⊢
  rw [List.map_append, List.sum_append, List.length_append]
  omega

end Json
