import TraceBackedMemory.Foundation.JsonBounds

namespace Number

variable {a b c : Number}

theorem eq_iff : a.eq b = true ↔ a.isNan = false ∧ b.isNan = false ∧ a.infinity = b.infinity ∧
    (a.infinity.isSome = true ∨ a.scaled = b.scaled) := by
  simp [Number.eq, and_assoc]

theorem eq_symm (h : a.eq b = true) : b.eq a = true := by
  obtain ⟨ha, hb, hinf, hvalue⟩ := eq_iff.mp h
  refine eq_iff.mpr ⟨hb, ha, hinf.symm, ?_⟩
  rw [← hinf]
  exact hvalue.imp id Eq.symm

theorem eq_trans (hab : a.eq b = true) (hbc : b.eq c = true) : a.eq c = true := by
  obtain ⟨ha, _, hinf, hvalue⟩ := eq_iff.mp hab
  obtain ⟨_, hc, hinf', hvalue'⟩ := eq_iff.mp hbc
  refine eq_iff.mpr ⟨ha, hc, hinf.trans hinf', ?_⟩
  rcases hvalue with hsome | hscaled
  · exact .inl hsome
  · rcases hvalue' with hsome | hscaled'
    · exact .inl (hinf ▸ hsome)
    · exact .inr (hscaled.trans hscaled')

theorem isNan_of_isFinite (h : a.isFinite = true) : a.isNan = false := by
  cases a with
  | int n => rfl
  | float x =>
    have hexponent : x.exponent ≠ 2047 := of_decide_eq_true h
    simp [isNan, Double.isNan, hexponent]

theorem eq_self (h : a.isFinite = true) : a.eq a = true :=
  eq_iff.mpr ⟨isNan_of_isFinite h, isNan_of_isFinite h, rfl, .inr rfl⟩

end Number

namespace Json

open Text

section Equality

theorem pyEqItems_iff {l m : List Json} :
    pyEqItems l m = true ↔ List.Forall₂ (fun a b => a.pyEq b = true) l m := by
  induction l generalizing m with
  | nil => cases m <;> simp [pyEqItems]
  | cons a l ih => cases m <;> simp [pyEqItems, ih]

theorem pyEqFields_iff {l m : List (Str × Json)} :
    pyEqFields l m = true ↔
      ∀ field ∈ l, ∃ w, field? field.1 m = some w ∧ field.2.pyEq w = true := by
  induction l with
  | nil => simp [pyEqFields]
  | cons field l ih =>
    obtain ⟨k, v⟩ := field
    rw [pyEqFields, Bool.and_eq_true, ih, List.forall_mem_cons]
    refine and_congr ?_ Iff.rfl
    rw [field?]
    cases m.find? (fun p => decide (p.1 = k)) <;> simp

theorem pyEq_obj {l m : List (Str × Json)} :
    (obj l).pyEq (.obj m) = true ↔ l.length = m.length ∧
      ∀ field ∈ l, ∃ w, field? field.1 m = some w ∧ field.2.pyEq w = true := by
  rw [pyEq, Bool.and_eq_true, decide_eq_true_eq, pyEqFields_iff]

theorem pyEq_arr {l m : List Json} :
    (arr l).pyEq (.arr m) = true ↔ List.Forall₂ (fun a b => a.pyEq b = true) l m := by
  rw [pyEq, pyEqItems_iff]

theorem mem_of_field {k : Str} {v : Json} {fields : List (Str × Json)}
    (h : field? k fields = some v) : (k, v) ∈ fields := by
  rw [field_eq_lookupIn] at h
  exact Dict.mem_of_lookupIn h

theorem field_of_mem {fields : List (Str × Json)} {field : Str × Json}
    (hkeys : (fields.map Prod.fst).Nodup) (h : field ∈ fields) :
    field? field.1 fields = some field.2 := by
  rw [field_eq_lookupIn, Dict.lookupIn_eq_some hkeys]
  exact h

theorem keys_perm {l m : List (Str × Json)} (hkeys : (l.map Prod.fst).Nodup)
    (hlength : l.length = m.length)
    (h : ∀ field ∈ l, ∃ w, field? field.1 m = some w ∧ field.2.pyEq w = true) :
    (l.map Prod.fst).Perm (m.map Prod.fst) := by
  have hsub : l.map Prod.fst ⊆ m.map Prod.fst := by
    intro k hk
    obtain ⟨field, hf, rfl⟩ := List.mem_map.mp hk
    obtain ⟨w, hw, _⟩ := h field hf
    exact List.mem_map.mpr ⟨_, mem_of_field hw, rfl⟩
  apply (List.subperm_of_subset hkeys hsub).perm_of_length_le
  simp [hlength]

theorem pyEq_symm {a : Json} (ha : isMapping a = true) {b : Json} (h : a.pyEq b = true) :
    b.pyEq a = true := by
  induction a using inductOn generalizing b with
  | null =>
    cases b with
    | null => rfl
    | _ => simp [pyEq, number?] at h
  | str s =>
    cases b with
    | str t =>
      simp only [pyEq, decide_eq_true_eq] at h ⊢
      exact h.symm
    | _ => simp [pyEq, number?] at h
  | bool x =>
    cases b with
    | bool y | num n =>
      simp only [pyEq, number?] at h ⊢
      exact Number.eq_symm h
    | _ => simp [pyEq, number?] at h
  | num n =>
    cases b with
    | bool y | num m =>
      simp only [pyEq, number?] at h ⊢
      exact Number.eq_symm h
    | _ => simp [pyEq, number?] at h
  | arr items ih =>
    cases b with
    | arr m =>
      rw [pyEq_arr] at h ⊢
      have hitems := shapedItems_iff.mp ha
      rw [List.forall₂_iff_get] at h ⊢
      refine ⟨h.1.symm, ?_⟩
      intro i hm hl
      exact ih _ (List.get_mem items ⟨i, hl⟩) (hitems _ (List.get_mem items ⟨i, hl⟩)) (h.2 i hl hm)
    | _ => simp [pyEq, number?] at h
  | obj l ih =>
    cases b with
    | obj m =>
      obtain ⟨hdistinct, hfields⟩ := shaped_obj.mp ha
      have hkeys := nodup_of_distinct hdistinct
      obtain ⟨hlength, hvalues⟩ := pyEq_obj.mp h
      have hperm := keys_perm hkeys hlength hvalues
      refine pyEq_obj.mpr ⟨hlength.symm, ?_⟩
      intro field hf
      obtain ⟨own, hown, hkey⟩ :=
        List.mem_map.mp (hperm.mem_iff.mpr (List.mem_map_of_mem hf))
      obtain ⟨w, hw, heq⟩ := hvalues own hown
      rw [hkey, field_of_mem (hperm.nodup_iff.mp hkeys) hf] at hw
      cases hw
      refine ⟨own.2, ?_, ih own hown (hfields own hown).2 heq⟩
      rw [← hkey]
      exact field_of_mem hkeys hown
    | _ => simp [pyEq, number?] at h

theorem pyEq_trans {a b c : Json} (hab : a.pyEq b = true) (hbc : b.pyEq c = true) :
    a.pyEq c = true := by
  induction a using inductOn generalizing b c with
  | null =>
    cases b with
    | null => exact hbc
    | _ => simp [pyEq, number?] at hab
  | str s =>
    cases b with
    | str t =>
      simp only [pyEq, decide_eq_true_eq] at hab
      exact hab ▸ hbc
    | _ => simp [pyEq, number?] at hab
  | bool x =>
    cases b with
    | bool y | num n =>
      cases c with
      | bool z | num m =>
        simp only [pyEq, number?] at hab hbc ⊢
        exact Number.eq_trans hab hbc
      | _ => simp [pyEq, number?] at hbc
    | _ => simp [pyEq, number?] at hab
  | num n =>
    cases b with
    | bool y | num m =>
      cases c with
      | bool z | num m =>
        simp only [pyEq, number?] at hab hbc ⊢
        exact Number.eq_trans hab hbc
      | _ => simp [pyEq, number?] at hbc
    | _ => simp [pyEq, number?] at hab
  | arr items ih =>
    cases b with
    | arr m =>
      cases c with
      | arr n =>
        rw [pyEq_arr] at hab hbc ⊢
        rw [List.forall₂_iff_get] at hab hbc ⊢
        refine ⟨hab.1.trans hbc.1, ?_⟩
        intro i hl hn
        have hm : i < m.length := hab.1 ▸ hl
        exact ih _ (List.get_mem items ⟨i, hl⟩) (hab.2 i hl hm) (hbc.2 i hm hn)
      | _ => simp [pyEq, number?] at hbc
    | _ => simp [pyEq, number?] at hab
  | obj l ih =>
    cases b with
    | obj m =>
      cases c with
      | obj n =>
        obtain ⟨hlength, hvalues⟩ := pyEq_obj.mp hab
        obtain ⟨hlength', hvalues'⟩ := pyEq_obj.mp hbc
        refine pyEq_obj.mpr ⟨hlength.trans hlength', ?_⟩
        intro field hf
        obtain ⟨w, hw, heq⟩ := hvalues field hf
        obtain ⟨u, hu, heq'⟩ := hvalues' _ (mem_of_field hw)
        exact ⟨u, hu, ih field hf heq heq'⟩
      | _ => simp [pyEq, number?] at hbc
    | _ => simp [pyEq, number?] at hab

theorem pyEq_refl {v : Json} (h : v.shaped distinct Number.isFinite (fun _ => true) = true) :
    v.pyEq v = true := by
  induction v using inductOn with
  | null => rfl
  | bool b => simp only [pyEq, number?, ofBool, Number.eq_self (a := .int _) rfl]
  | num n =>
    simp only [pyEq, number?]
    exact Number.eq_self h
  | str s =>
    rw [pyEq]
    exact decide_eq_true rfl
  | arr items ih =>
    rw [pyEq]
    exact pyEqItems_refl fun v hv => ih v hv (shapedItems_iff.mp h v hv)
  | obj fields ih =>
    obtain ⟨hdistinct, hfields⟩ := shaped_obj.mp h
    refine pyEq_obj.mpr ⟨rfl, fun field hf => ⟨field.2, ?_, ih field hf (hfields field hf).2⟩⟩
    exact field_of_mem (nodup_of_distinct hdistinct) hf

end Equality

end Json
