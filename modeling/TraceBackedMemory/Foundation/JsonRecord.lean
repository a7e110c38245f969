import TraceBackedMemory.Foundation.SortedKeys
import TraceBackedMemory.Foundation.Raising

namespace Json

open Text Raising OrderBy

abbrev Fields := List (Str × Json)

section Lookups

variable {fields : Fields}

def valueAt (fields : Fields) (name : Str) : Json := (field? name fields).getD .null

-- the fields a decoder meets: every object with its keys in order
def sorted (fields : Fields) : Fields := orderBy Prod.fst (sortFields fields)

theorem valueAt_get (hkeys : (fields.map Prod.fst).Nodup) (i : Nat) (name : Str) (v : Json)
    (h : fields[i]? = some (name, v)) : valueAt fields name = v := by
  have hfield : field? name fields = some v := by
    rw [field_eq_lookupIn, Dict.lookupIn_eq_some hkeys]
    exact List.mem_of_getElem? h
  rw [valueAt, hfield]
  rfl

theorem valueAt_sorted (hkeys : (fields.map Prod.fst).Nodup) (i : Nat) (name : Str) (v : Json)
    (h : fields[i]? = some (name, v)) : valueAt (sorted fields) name = sortKeys v := by
  have hfield : field? name fields = some v := by
    rw [field_eq_lookupIn, Dict.lookupIn_eq_some hkeys]
    exact List.mem_of_getElem? h
  rw [valueAt, sorted, field_sorted hkeys, hfield]
  rfl

theorem mem_keys_sorted {name : Str} :
    name ∈ (sorted fields).map Prod.fst ↔ name ∈ fields.map Prod.fst := by
  rw [sorted, ((orderBy_perm Prod.fst (sortFields fields)).map Prod.fst).mem_iff, keys_sortFields]

end Lookups

section Objects

variable {ε : Type}

def firstOutside (names : List Str) (l : List Str) : Option Str :=
  (orderBy id (l.filter (fun name => decide (name ∉ names)))).head?

theorem firstOutside_eq_none {names l : List Str} : firstOutside names l = none ↔ ∀ name ∈ l, name ∈ names := by
  have hlength := length_orderBy id (l.filter (fun name => decide (name ∉ names)))
  rw [firstOutside, List.head?_eq_none_iff, ← List.length_eq_zero_iff, hlength, List.length_eq_zero_iff,
    List.filter_eq_nil_iff]
  simp only [decide_eq_true_eq, not_not]

end Objects

end Json
