import TraceBackedMemory.Foundation.Dict

namespace Dict

section Values

variable {κ α β γ : Type} [DecidableEq κ]

theorem ext_get? {d e : Dict κ α} (hkeys : d.keys = e.keys) (h : ∀ k, d.get? k = e.get? k) : d = e := by
  refine ext_entries (List.ext_getElem ?_ fun i hi hi' => ?_)
  · simpa [keys] using congrArg List.length hkeys
  · have hkey : d.entries[i].1 = e.entries[i].1 := by
      have hget := List.getElem_of_eq hkeys (by simpa [keys] using hi)
      simpa [keys] using hget
    have hleft : d.get? d.entries[i].1 = some d.entries[i].2 := get?_eq_some.mpr (List.getElem_mem hi)
    have hright : e.get? e.entries[i].1 = some e.entries[i].2 := get?_eq_some.mpr (List.getElem_mem hi')
    rw [h, hkey, hright] at hleft
    exact Prod.ext hkey (Option.some.inj hleft).symm

omit [DecidableEq κ] in
@[simp] theorem keys_mapValues (f : κ → α → β) (d : Dict κ α) : (d.mapValues f).keys = d.keys := by
  simp [keys, mapValues, Function.comp_def]

omit [DecidableEq κ] in
theorem mapValues_mapValues (f : κ → α → β) (g : κ → β → γ) (d : Dict κ α) :
    (d.mapValues f).mapValues g = d.mapValues (fun k v => g k (f k v)) :=
  ext_entries (by simp [mapValues, Function.comp_def])

theorem mapValues_congr {f g : κ → α → β} {d : Dict κ α} (h : ∀ k v, d.get? k = some v → f k v = g k v) :
    d.mapValues f = d.mapValues g := by
  refine ext_get? (by simp) fun k => ?_
  rw [get?_mapValues, get?_mapValues]
  cases hget : d.get? k with
  | none => rfl
  | some v => exact congrArg some (h k v hget)

theorem mapValues_self {f : κ → α → α} {d : Dict κ α} (h : ∀ k v, d.get? k = some v → f k v = v) :
    d.mapValues f = d := by
  refine ext_get? (by simp) fun k => ?_
  rw [get?_mapValues]
  cases hget : d.get? k with
  | none => rfl
  | some v => exact congrArg some (h k v hget)

theorem keys_set_of_mem {d : Dict κ α} {k : κ} (v : α) (h : k ∈ d.keys) : (d.set k v).keys = d.keys := by
  have hput (l : List (κ × α)) (hl : k ∈ l.map Prod.fst) : (putIn k v l).map Prod.fst = l.map Prod.fst := by
    induction l with
    | nil => exact absurd hl List.not_mem_nil
    | cons p l ih =>
      obtain ⟨j, w⟩ := p
      by_cases hj : j = k
      · simp [putIn, hj]
      · have hrest : k ∈ l.map Prod.fst := (List.mem_cons.mp hl).resolve_left fun heq => hj heq.symm
        simp [putIn, hj, ih hrest]
  exact hput d.entries h

theorem keys_update_of_subset {d : Dict κ α} {l : List (κ × α)} (h : ∀ p ∈ l, p.1 ∈ d.keys) :
    (d.update l).keys = d.keys := by
  induction l generalizing d with
  | nil => rfl
  | cons p l ih =>
    have hset := keys_set_of_mem p.2 (h p List.mem_cons_self)
    change ((d.set p.1 p.2).update l).keys = d.keys
    rw [ih fun q hq => hset ▸ h q (List.mem_cons_of_mem p hq), hset]

theorem set_eq_mapValues {d : Dict κ α} {k : κ} (v : α) (h : k ∈ d.keys) :
    d.set k v = d.mapValues (fun j w => if j = k then v else w) := by
  refine ext_get? ((keys_set_of_mem v h).trans (by simp)) fun j => ?_
  rw [get?_set, get?_mapValues]
  by_cases hj : j = k
  · obtain ⟨w, hw⟩ := mem_keys.mp h
    simp [hj, hw]
  · simp [hj]

theorem set_of_get? {d : Dict κ α} {k : κ} {v : α} (h : d.get? k = some v) : d.set k v = d := by
  rw [set_eq_mapValues v (mem_keys.mpr ⟨v, h⟩)]
  refine mapValues_self fun j w hj => ?_
  split_ifs with heq
  · subst heq
    exact Option.some.inj (h.symm.trans hj)
  · rfl

theorem update_selected (p : κ → α → Bool) (f : κ → α → α) (d : Dict κ α) :
    d.update ((d.filterEntries p).mapValues f).entries = d.mapValues (fun k v => if p k v then f k v else v) := by
  refine ext_get? ?_ fun k => by rw [get?_update_selected, get?_mapValues]
  rw [keys_mapValues]
  refine keys_update_of_subset fun q hq => ?_
  obtain ⟨q, hkept, rfl⟩ := List.mem_map.mp hq
  exact List.mem_map.mpr ⟨q, (List.mem_filter.mp hkept).1, rfl⟩

end Values

end Dict
