import TraceBackedMemory.Foundation.Dict
import TraceBackedMemory.Foundation.JsonText

namespace Json

open Text OrderBy

section Sorting

mutual

def sortKeys : Json → Json
  | .arr items => .arr (sortItems items)
  | .obj fields => .obj (orderBy Prod.fst (sortFields fields))
  | value => value

def sortItems : List Json → List Json
  | [] => []
  | v :: l => sortKeys v :: sortItems l

def sortFields : List (Str × Json) → List (Str × Json)
  | [] => []
  | (k, v) :: l => (k, sortKeys v) :: sortFields l

end

theorem sortItems_eq (items : List Json) : sortItems items = items.map sortKeys := by
  induction items with
  | nil => rfl
  | cons v l ih => rw [sortItems, ih, List.map_cons]

theorem sortFields_eq (fields : List (Str × Json)) :
    sortFields fields = fields.map (fun field => (field.1, sortKeys field.2)) := by
  induction fields with
  | nil => rfl
  | cons field l ih => rw [sortFields, ih, List.map_cons]

theorem orderBy_map {α β κ : Type} [LinearOrder κ] {f : α → κ} {g : β → κ} {h : α → β}
    (hkey : ∀ a, g (h a) = f a) (l : List α) : orderBy g (l.map h) = (orderBy f l).map h := by
  refine (List.map_insertionSort (fun a b => f a ≤ f b) (fun a b => g a ≤ g b) h l ?_).symm
  intro a _ b _
  rw [hkey, hkey]

theorem sortKeys_of_increasing {number : Number → Bool} {key : Str → Bool} {v : Json}
    (h : shaped increasing number key v = true) : sortKeys v = v := by
  induction v using inductOn with
  | null | bool b | num n | str s => rfl
  | arr items ih =>
    rw [sortKeys, sortItems_eq]
    have hitems := shapedItems_iff.mp h
    rw [List.map_congr_left fun v hv => ih v hv (hitems v hv), List.map_id']
  | obj fields ih =>
    obtain ⟨hsorted, hfields⟩ := shaped_obj.mp h
    have hsame : sortFields fields = fields := by
      rw [sortFields_eq]
      conv_rhs => rw [← List.map_id fields]
      apply List.map_congr_left
      intro field hf
      rw [ih field hf (hfields field hf).2]
      rfl
    rw [sortKeys, hsame, orderBy_of_pairwise]
    exact hsorted.imp fun hab => le_of_lt (of_decide_eq_true hab)

end Sorting

section Lookup

variable {fields : List (Str × Json)}

theorem field_eq_lookupIn (k : Str) (fields : List (Str × Json)) :
    field? k fields = Dict.lookupIn k fields := by
  induction fields with
  | nil => rfl
  | cons field fields ih =>
    obtain ⟨j, v⟩ := field
    rw [Dict.lookupIn, ← ih, field?, List.find?_cons]
    by_cases h : j = k
    · simp [h]
    · simp [h, field?]

theorem field_putIn (k j : Str) (v : Json) (fields : List (Str × Json)) :
    field? j (Dict.putIn k v fields) = if j = k then some v else field? j fields := by
  rw [field_eq_lookupIn, Dict.lookupIn_putIn, field_eq_lookupIn]

theorem mem_putIn {k : Str} {v : Json} {field : Str × Json} (h : field ∈ Dict.putIn k v fields) :
    field = (k, v) ∨ field ∈ fields := by
  induction fields with
  | nil => exact .inl (List.mem_singleton.mp h)
  | cons first fields ih =>
    rw [Dict.putIn] at h
    split at h
    · rcases List.mem_cons.mp h with rfl | h
      · exact .inl rfl
      · exact .inr (List.mem_cons_of_mem _ h)
    · rcases List.mem_cons.mp h with rfl | h
      · exact .inr List.mem_cons_self
      · exact (ih h).imp id (List.mem_cons_of_mem _)

theorem field_sortFields (k : Str) (fields : List (Str × Json)) :
    field? k (sortFields fields) = (field? k fields).map sortKeys := by
  induction fields with
  | nil => rfl
  | cons field fields ih =>
    obtain ⟨j, v⟩ := field
    rw [field_eq_lookupIn] at ih ⊢
    rw [field_eq_lookupIn] at ih ⊢
    rw [sortFields, Dict.lookupIn, Dict.lookupIn]
    split
    · rfl
    · exact ih

theorem keys_sortFields (fields : List (Str × Json)) :
    (sortFields fields).map Prod.fst = fields.map Prod.fst := by
  rw [sortFields_eq, List.map_map]
  rfl

theorem field_sorted (hkeys : (fields.map Prod.fst).Nodup) (k : Str) :
    field? k (orderBy Prod.fst (sortFields fields)) = (field? k fields).map sortKeys := by
  have hperm := orderBy_perm Prod.fst (sortFields fields)
  rw [← field_sortFields, field_eq_lookupIn, field_eq_lookupIn]
  refine Dict.lookupIn_of_perm hperm ?_ k
  rw [(hperm.map Prod.fst).nodup_iff, keys_sortFields]
  exact hkeys

theorem mem_keys_iff {k : Str} : k ∈ fields.map Prod.fst ↔ field? k fields ≠ none := by
  rw [field_eq_lookupIn, ne_eq, Dict.lookupIn_eq_none, not_not]

end Lookup

section Distinct

def distinct (a b : Str) : Bool := decide (a ≠ b)

theorem nodup_of_distinct {fields : List (Str × Json)}
    (h : fields.Pairwise (fun a b => distinct a.1 b.1 = true)) : (fields.map Prod.fst).Nodup := by
  rw [List.Nodup, List.pairwise_map]
  exact h.imp fun hab => of_decide_eq_true hab

theorem distinct_of_nodup {fields : List (Str × Json)} (h : (fields.map Prod.fst).Nodup) :
    fields.Pairwise (fun a b => distinct a.1 b.1 = true) := by
  rw [List.Nodup, List.pairwise_map] at h
  exact h.imp fun hab => decide_eq_true hab

theorem distinct_of_increasing {a b : Str} (h : increasing a b = true) : distinct a b = true :=
  decide_eq_true (ne_of_lt (of_decide_eq_true h))

theorem eq_int (n : Int) : Number.eq (.int n) (.int n) = true := by
  simp [Number.eq, Number.isNan, Number.infinity]

theorem pyEqItems_refl {items : List Json} (h : ∀ v ∈ items, v.pyEq v = true) :
    pyEqItems items items = true := by
  induction items with
  | nil => rfl
  | cons v items ih =>
    rw [pyEqItems, h v List.mem_cons_self, ih fun w hw => h w (List.mem_cons_of_mem _ hw)]
    rfl

theorem pyEqFields_of_lookup {fields fields' : List (Str × Json)}
    (h : ∀ field ∈ fields, field? field.1 fields' = some field.2 ∧
      field.2.pyEq field.2 = true) : pyEqFields fields fields' = true := by
  induction fields with
  | nil => rfl
  | cons field fields ih =>
    obtain ⟨hfield, hself⟩ := h field List.mem_cons_self
    rw [field?, Option.map_eq_some_iff] at hfield
    obtain ⟨found, hfind, hvalue⟩ := hfield
    rw [pyEqFields, hfind, ih fun f hf => h f (List.mem_cons_of_mem _ hf)]
    simp only [hvalue, hself, Bool.and_self]

theorem pyEq_self {key : Str → Bool} {value : Json}
    (h : value.shaped distinct isInt key = true) : value.pyEq value = true := by
  induction value using inductOn with
  | null => rfl
  | bool b => simp [pyEq, number?, ofBool, eq_int]
  | num n =>
    cases n with
    | int n => simp [pyEq, number?, eq_int]
    | float x => cases h
  | str s =>
    rw [pyEq]
    exact decide_eq_true rfl
  | arr items ih =>
    rw [pyEq]
    exact pyEqItems_refl fun v hv => ih v hv (shapedItems_iff.mp h v hv)
  | obj fields ih =>
    obtain ⟨hdistinct, hfields⟩ := shaped_obj.mp h
    have hlookup (field : Str × Json) (hf : field ∈ fields) : field? field.1 fields = some field.2 := by
      rw [field_eq_lookupIn, Dict.lookupIn_eq_some (nodup_of_distinct hdistinct)]
      exact hf
    rw [pyEq, pyEqFields_of_lookup fun field hf =>
      ⟨hlookup field hf, ih field hf (hfields field hf).2⟩]
    simp

end Distinct

end Json
