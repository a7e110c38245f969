import Mathlib.Data.List.Nodup
import Mathlib.Data.List.Induction

structure Dict (κ α : Type) where
  entries : List (κ × α)
  nodup : (entries.map Prod.fst).Nodup

namespace Dict

variable {κ α β : Type}

instance [DecidableEq κ] [DecidableEq α] : DecidableEq (Dict κ α) := fun d e =>
  decidable_of_iff (d.entries = e.entries) (by
    cases d
    cases e
    simp)

theorem ext_entries {d e : Dict κ α} (h : d.entries = e.entries) : d = e := by
  cases d
  cases e
  cases h
  rfl

def empty : Dict κ α := ⟨[], List.nodup_nil⟩

def keys (d : Dict κ α) : List κ := d.entries.map Prod.fst

def values (d : Dict κ α) : List α := d.entries.map Prod.snd

def size (d : Dict κ α) : Nat := d.entries.length

def isEmpty (d : Dict κ α) : Bool := d.entries.isEmpty

theorem keys_nodup (d : Dict κ α) : d.keys.Nodup := d.nodup

section Lookup

variable [DecidableEq κ]

def lookupIn (k : κ) : List (κ × α) → Option α
  | [] => none
  | (j, v) :: l => if j = k then some v else lookupIn k l

def get? (d : Dict κ α) (k : κ) : Option α := lookupIn k d.entries

def contains (d : Dict κ α) (k : κ) : Bool := (d.get? k).isSome

def putIn (k : κ) (v : α) : List (κ × α) → List (κ × α)
  | [] => [(k, v)]
  | (j, w) :: l => if j = k then (k, v) :: l else (j, w) :: putIn k v l

theorem mem_keys_putIn {k : κ} {v : α} {l : List (κ × α)} {j : κ} :
    j ∈ (putIn k v l).map Prod.fst ↔ j = k ∨ j ∈ l.map Prod.fst := by
  induction l with
  | nil => simp [putIn]
  | cons p l ih =>
    obtain ⟨i, w⟩ := p
    by_cases h : i = k
    · simp [putIn, h]
    · simp only [putIn, h, if_false, List.map_cons, List.mem_cons, ih]
      tauto

theorem nodup_putIn {k : κ} {v : α} {l : List (κ × α)} (h : (l.map Prod.fst).Nodup) :
    ((putIn k v l).map Prod.fst).Nodup := by
  induction l with
  | nil => simp [putIn]
  | cons p l ih =>
    obtain ⟨i, w⟩ := p
    simp only [List.map_cons, List.nodup_cons] at h
    by_cases hi : i = k
    · simpa [putIn, hi] using h
    · simp only [putIn, hi, if_false, List.map_cons, List.nodup_cons]
      refine ⟨?_, ih h.2⟩
      intro hm
      rcases mem_keys_putIn.mp hm with hk | hl
      · exact hi hk
      · exact h.1 hl

def set (d : Dict κ α) (k : κ) (v : α) : Dict κ α := ⟨putIn k v d.entries, nodup_putIn d.nodup⟩

def erase (d : Dict κ α) (k : κ) : Dict κ α :=
  ⟨d.entries.filter (fun p => decide (p.1 ≠ k)),
    d.nodup.sublist (List.filter_sublist.map Prod.fst)⟩

def update (d : Dict κ α) (l : List (κ × α)) : Dict κ α := l.foldl (fun d p => d.set p.1 p.2) d

def ofList (l : List (κ × α)) : Dict κ α := empty.update l

def mapValues (f : κ → α → β) (d : Dict κ α) : Dict κ β :=
  ⟨d.entries.map (fun p => (p.1, f p.1 p.2)), by
    simpa [List.map_map, Function.comp_def] using d.nodup⟩

def filterEntries (p : κ → α → Bool) (d : Dict κ α) : Dict κ α :=
  ⟨d.entries.filter (fun e => p e.1 e.2), d.nodup.sublist (List.filter_sublist.map Prod.fst)⟩

theorem lookupIn_eq_none {k : κ} {l : List (κ × α)} :
    lookupIn k l = none ↔ k ∉ l.map Prod.fst := by
  induction l with
  | nil => simp [lookupIn]
  | cons p l ih =>
    obtain ⟨i, w⟩ := p
    by_cases h : i = k
    · simp [lookupIn, h]
    · have h' : k ≠ i := fun e => h e.symm
      simp [lookupIn, h, h', ih]

theorem lookupIn_eq_some {k : κ} {v : α} {l : List (κ × α)} (hn : (l.map Prod.fst).Nodup) :
    lookupIn k l = some v ↔ (k, v) ∈ l := by
  induction l with
  | nil => simp [lookupIn]
  | cons p l ih =>
    obtain ⟨i, w⟩ := p
    simp only [List.map_cons, List.nodup_cons] at hn
    by_cases h : i = k
    · subst h
      constructor
      · intro hw
        simp only [lookupIn, if_true, Option.some.injEq] at hw
        simp [hw]
      · intro hm
        rcases List.mem_cons.mp hm with hm | hm
        · simp only [Prod.mk.injEq, true_and] at hm
          simp [lookupIn, hm]
        · exact False.elim (hn.1 (List.mem_map.mpr ⟨_, hm, rfl⟩))
    · have h' : k ≠ i := fun e => h e.symm
      simp [lookupIn, h, h', ih hn.2]

theorem lookupIn_putIn (k : κ) (v : α) (l : List (κ × α)) (j : κ) :
    lookupIn j (putIn k v l) = if j = k then some v else lookupIn j l := by
  induction l with
  | nil =>
    by_cases h : k = j
    · simp [putIn, lookupIn, h]
    · have h' : j ≠ k := fun e => h e.symm
      simp [putIn, lookupIn, h, h']
  | cons p l ih =>
    obtain ⟨i, w⟩ := p
    by_cases hi : i = k
    · subst hi
      by_cases h : i = j
      · simp [putIn, lookupIn, h]
      · have h' : j ≠ i := fun e => h e.symm
        simp [putIn, lookupIn, h, h']
    · by_cases h : i = j
      · subst h
        simp [putIn, lookupIn, hi]
      · simp [putIn, lookupIn, hi, h, ih]

theorem get?_eq_some {d : Dict κ α} {k : κ} {v : α} : d.get? k = some v ↔ (k, v) ∈ d.entries :=
  lookupIn_eq_some d.nodup

theorem get?_eq_none {d : Dict κ α} {k : κ} : d.get? k = none ↔ k ∉ d.keys :=
  lookupIn_eq_none

@[simp] theorem get?_empty (k : κ) : (empty : Dict κ α).get? k = none := rfl

theorem get?_set (d : Dict κ α) (k : κ) (v : α) (j : κ) :
    (d.set k v).get? j = if j = k then some v else d.get? j :=
  lookupIn_putIn k v d.entries j

@[simp] theorem get?_set_self (d : Dict κ α) (k : κ) (v : α) : (d.set k v).get? k = some v := by
  simp [get?_set]

theorem get?_set_of_ne (d : Dict κ α) {k j : κ} (v : α) (h : j ≠ k) :
    (d.set k v).get? j = d.get? j := by
  simp [get?_set, h]

theorem forall_get?_set {d : Dict κ α} {k : κ} {v : α} {P : κ → α → Prop} (hnew : P k v)
    (hold : ∀ j w, d.get? j = some w → P j w) (j : κ) (w : α) (h : (d.set k v).get? j = some w) :
    P j w := by
  rw [get?_set] at h
  split at h
  · rename_i he
    cases h
    exact he ▸ hnew
  · exact hold j w h

theorem contains_iff {d : Dict κ α} {k : κ} : d.contains k = true ↔ ∃ v, d.get? k = some v := by
  simp [contains, Option.isSome_iff_exists]

theorem contains_iff_mem_keys {d : Dict κ α} {k : κ} : d.contains k = true ↔ k ∈ d.keys := by
  rw [contains, Option.isSome_iff_ne_none, ne_eq, get?_eq_none, not_not]

theorem contains_eq_false {d : Dict κ α} {k : κ} : d.contains k = false ↔ d.get? k = none := by
  simp [contains]

theorem mem_keys {d : Dict κ α} {k : κ} : k ∈ d.keys ↔ ∃ v, d.get? k = some v := by
  rw [← contains_iff_mem_keys, contains_iff]

theorem mem_values {d : Dict κ α} {v : α} : v ∈ d.values ↔ ∃ k, d.get? k = some v := by
  constructor
  · intro h
    obtain ⟨⟨k, w⟩, hm, rfl⟩ := List.mem_map.mp h
    exact ⟨k, get?_eq_some.mpr hm⟩
  · rintro ⟨k, h⟩
    exact List.mem_map.mpr ⟨(k, v), get?_eq_some.mp h, rfl⟩

theorem putIn_of_not_mem {k : κ} {v : α} {l : List (κ × α)} (h : k ∉ l.map Prod.fst) :
    putIn k v l = l ++ [(k, v)] := by
  induction l with
  | nil => rfl
  | cons p l ih =>
    obtain ⟨i, w⟩ := p
    simp only [List.map_cons, List.mem_cons, not_or] at h
    have hi : i ≠ k := fun e => h.1 e.symm
    simp [putIn, hi, ih h.2]

theorem entries_set_of_none {d : Dict κ α} {k : κ} (v : α) (h : d.get? k = none) :
    (d.set k v).entries = d.entries ++ [(k, v)] :=
  putIn_of_not_mem (get?_eq_none.mp h)

theorem putIn_putIn (k : κ) (v w : α) (l : List (κ × α)) :
    putIn k w (putIn k v l) = putIn k w l := by
  induction l with
  | nil => simp [putIn]
  | cons p l ih =>
    obtain ⟨i, u⟩ := p
    by_cases h : i = k
    · simp [putIn, h]
    · simp [putIn, h, ih]

theorem set_set (d : Dict κ α) (k : κ) (v w : α) : (d.set k v).set k w = d.set k w :=
  ext_entries (putIn_putIn k v w d.entries)

theorem mem_keys_set {d : Dict κ α} {k : κ} {v : α} {j : κ} :
    j ∈ (d.set k v).keys ↔ j = k ∨ j ∈ d.keys :=
  mem_keys_putIn

theorem get?_erase (d : Dict κ α) (k j : κ) :
    (d.erase k).get? j = if j = k then none else d.get? j := by
  by_cases h : j = k
  · subst h
    rw [if_pos rfl, get?_eq_none]
    simp [keys, erase]
  · rw [if_neg h]
    cases hd : d.get? j with
    | none =>
      rw [get?_eq_none] at hd ⊢
      intro hm
      obtain ⟨p, hp, hj⟩ := List.mem_map.mp hm
      exact hd (List.mem_map.mpr ⟨p, (List.mem_filter.mp hp).1, hj⟩)
    | some v =>
      rw [get?_eq_some] at hd ⊢
      exact List.mem_filter.mpr ⟨hd, by simpa using h⟩

theorem erase_of_none {d : Dict κ α} {k : κ} (h : d.get? k = none) : d.erase k = d := by
  refine ext_entries (List.filter_eq_self.mpr fun p hp => ?_)
  rw [decide_eq_true_eq]
  rintro rfl
  exact get?_eq_none.mp h (List.mem_map.mpr ⟨p, hp, rfl⟩)

theorem erase_set_of_none {d : Dict κ α} {k : κ} (v : α) (h : d.get? k = none) :
    (d.set k v).erase k = d := by
  refine Eq.trans (ext_entries ?_) (erase_of_none h)
  simp [erase, entries_set_of_none v h]

def Covers (d : Dict κ α) (e : Dict κ β) : Prop := ∀ k, d.contains k = true → e.contains k = true

theorem Covers.refl (d : Dict κ α) : Covers d d := fun _ h => h

theorem covers_set (d : Dict κ α) (k : κ) (v : α) : Covers d (d.set k v) := by
  intro j h
  rw [contains_iff_mem_keys] at h ⊢
  exact mem_keys_set.mpr (.inr h)

theorem covers_of_get? {d : Dict κ α} {e : Dict κ β}
    (h : ∀ k v, d.get? k = some v → ∃ w, e.get? k = some w) : Covers d e := by
  intro k hk
  obtain ⟨v, hv⟩ := contains_iff.mp hk
  exact contains_iff.mpr (h k v hv)

theorem get?_update (d : Dict κ α) (l : List (κ × α)) (k : κ) :
    (d.update l).get? k = (lookupIn k l.reverse).or (d.get? k) := by
  induction l using List.reverseRecOn with
  | nil => simp [update, lookupIn]
  | append_singleton l p ih =>
    obtain ⟨i, v⟩ := p
    have hs : d.update (l ++ [(i, v)]) = (d.update l).set i v := by simp [update]
    rw [hs, get?_set, ih]
    by_cases h : k = i
    · simp [lookupIn, h]
    · have h' : i ≠ k := fun e => h e.symm
      simp [lookupIn, h, h']

theorem mem_keys_update {d : Dict κ α} {l : List (κ × α)} {k : κ} :
    k ∈ (d.update l).keys ↔ k ∈ d.keys ∨ k ∈ l.map Prod.fst := by
  induction l generalizing d with
  | nil => simp [update]
  | cons p l ih =>
    have hs : d.update (p :: l) = (d.set p.1 p.2).update l := rfl
    rw [hs, ih, mem_keys_set, List.map_cons, List.mem_cons]
    tauto

theorem keys_set_of_not_mem {d : Dict κ α} {k : κ} (v : α) (h : k ∉ d.keys) :
    (d.set k v).keys = d.keys ++ [k] := by
  rw [keys, entries_set_of_none v (get?_eq_none.mpr h), List.map_append]
  rfl

theorem entries_update_of_nodup {d : Dict κ α} {l : List (κ × α)}
    (h : (d.keys ++ l.map Prod.fst).Nodup) : (d.update l).entries = d.entries ++ l := by
  induction l generalizing d with
  | nil => simp [update]
  | cons p l ih =>
    have hs : d.update (p :: l) = (d.set p.1 p.2).update l := rfl
    have hp : p.1 ∉ d.keys := by
      intro hin
      exact (List.nodup_append.mp h).2.2 _ hin _ (by simp) rfl
    have hn : ((d.set p.1 p.2).keys ++ l.map Prod.fst).Nodup := by
      rw [keys_set_of_not_mem p.2 hp, List.append_assoc]
      exact h
    rw [hs, ih hn, entries_set_of_none p.2 (get?_eq_none.mpr hp), List.append_assoc]
    rfl

theorem lookupIn_of_perm {l m : List (κ × α)} (hp : l.Perm m) (hn : (l.map Prod.fst).Nodup)
    (k : κ) : lookupIn k l = lookupIn k m := by
  have hm : (m.map Prod.fst).Nodup := (hp.map Prod.fst).nodup_iff.mp hn
  cases h : lookupIn k m with
  | none =>
    rw [lookupIn_eq_none] at h ⊢
    exact fun hk => h ((hp.map Prod.fst).mem_iff.mp hk)
  | some v =>
    rw [lookupIn_eq_some hm] at h
    rw [lookupIn_eq_some hn]
    exact hp.mem_iff.mpr h

theorem get?_update_nodup (d : Dict κ α) {l : List (κ × α)} (hn : (l.map Prod.fst).Nodup) (k : κ) :
    (d.update l).get? k = (lookupIn k l).or (d.get? k) := by
  rw [get?_update, lookupIn_of_perm (List.reverse_perm l)]
  simpa [List.map_reverse] using List.nodup_reverse.mpr hn

theorem mem_of_lookupIn {k : κ} {v : α} {l : List (κ × α)} (h : lookupIn k l = some v) :
    (k, v) ∈ l := by
  induction l with
  | nil => simp [lookupIn] at h
  | cons p l ih =>
    obtain ⟨i, w⟩ := p
    by_cases hi : i = k
    · simp only [lookupIn, hi, if_true, Option.some.injEq] at h
      simp [hi, h]
    · simp only [lookupIn, hi, if_false] at h
      exact List.mem_cons_of_mem _ (ih h)

theorem mem_of_get?_ofList {l : List (κ × α)} {k : κ} {v : α} (h : (ofList l).get? k = some v) :
    (k, v) ∈ l := by
  rw [ofList, get?_update, get?_empty, Option.or_none] at h
  exact List.mem_reverse.mp (mem_of_lookupIn h)

theorem get?_update_dict (d e : Dict κ α) (k : κ) :
    (d.update e.entries).get? k = (e.get? k).or (d.get? k) :=
  get?_update_nodup d e.nodup k

theorem get?_mapValues (f : κ → α → β) (d : Dict κ α) (k : κ) :
    (d.mapValues f).get? k = (d.get? k).map (f k) := by
  cases h : d.get? k with
  | none =>
    rw [get?_eq_none] at h
    rw [Option.map_none, get?_eq_none]
    simpa [keys, mapValues, Function.comp_def] using h
  | some v =>
    rw [get?_eq_some] at h
    rw [Option.map_some, get?_eq_some]
    exact List.mem_map.mpr ⟨(k, v), h, rfl⟩

theorem get?_filterEntries (p : κ → α → Bool) (d : Dict κ α) (k : κ) :
    (d.filterEntries p).get? k = (d.get? k).filter (p k) := by
  cases h : d.get? k with
  | none =>
    rw [get?_eq_none] at h
    rw [Option.filter_none, get?_eq_none]
    intro hm
    obtain ⟨e, he, hk⟩ := List.mem_map.mp hm
    exact h (List.mem_map.mpr ⟨e, (List.mem_filter.mp he).1, hk⟩)
  | some v =>
    by_cases hp : p k v = true
    · rw [Option.filter_some_pos hp, get?_eq_some]
      exact List.mem_filter.mpr ⟨get?_eq_some.mp h, hp⟩
    · rw [Option.filter_some_neg (by simpa using hp), get?_eq_none]
      intro hm
      obtain ⟨⟨i, w⟩, he, hk⟩ := List.mem_map.mp hm
      obtain ⟨he, hpw⟩ := List.mem_filter.mp he
      simp only at hk hpw
      subst hk
      have hw := get?_eq_some.mpr he
      rw [h, Option.some.injEq] at hw
      subst hw
      exact hp hpw

theorem get?_update_selected (p : κ → α → Bool) (f : κ → α → α) (d : Dict κ α) (k : κ) :
    (d.update ((d.filterEntries p).mapValues f).entries).get? k =
      (d.get? k).map (fun v => if p k v then f k v else v) := by
  rw [get?_update_dict, get?_mapValues, get?_filterEntries]
  cases d.get? k with
  | none => rfl
  | some v =>
    cases hp : p k v with
    | true => simp [Option.filter_some_pos (p := p k) hp, hp]
    | false => simp [Option.filter_some_neg (p := p k) hp, hp]

structure Restores (d e : Dict κ α) (key : α → κ) (rest : List α) : Prop where
  nodup : (rest.map key).Nodup
  get?_iff : ∀ k v, d.get? k = some v ↔ e.get? k = some v ∨ (v ∈ rest ∧ key v = k)
  missing : ∀ v ∈ rest, e.get? (key v) = none

namespace Restores

variable {d e : Dict κ α} {key : α → κ} {rest : List α}

theorem of_get? (h : Restores d e key rest) {k : κ} {v : α} (hv : e.get? k = some v) :
    d.get? k = some v :=
  (h.get?_iff k v).mpr (.inl hv)

theorem of_mem (h : Restores d e key rest) {v : α} (hv : v ∈ rest) : d.get? (key v) = some v :=
  (h.get?_iff (key v) v).mpr (.inr ⟨hv, rfl⟩)

theorem get?_none (h : Restores d e key rest) {k : κ} (hk : d.get? k = none) : e.get? k = none := by
  cases he : e.get? k with
  | none => rfl
  | some v =>
    rw [h.of_get? he] at hk
    cases hk

theorem step {v : α} (h : Restores d e key (v :: rest)) :
    Restores d (e.set (key v) v) key rest := by
  have hn := h.nodup
  simp only [List.map_cons, List.nodup_cons] at hn
  have hne : ∀ w ∈ rest, key w ≠ key v := fun w hw he =>
    hn.1 (he ▸ List.mem_map.mpr ⟨w, hw, rfl⟩)
  refine ⟨hn.2, fun k w => ?_, fun w hw => ?_⟩
  · rw [h.get?_iff k w, get?_set]
    by_cases hk : k = key v
    · subst hk
      have hmiss := h.missing v (by simp)
      simp only [hmiss, if_true, Option.some.injEq, reduceCtorEq, false_or, List.mem_cons]
      constructor
      · rintro ⟨rfl | hw, he⟩
        · exact .inl rfl
        · exact absurd he (hne w hw)
      · rintro (rfl | ⟨hw, he⟩)
        · exact ⟨.inl rfl, rfl⟩
        · exact absurd he (hne w hw)
    · have hk' : key v ≠ k := fun he => hk he.symm
      simp only [hk, if_false, List.mem_cons]
      constructor
      · rintro (hw | ⟨rfl | hw, he⟩)
        · exact .inl hw
        · exact absurd he hk'
        · exact .inr ⟨hw, he⟩
      · rintro (hw | ⟨hw, he⟩)
        · exact .inl hw
        · exact .inr ⟨.inr hw, he⟩
  · rw [get?_set_of_ne e v (hne w hw)]
    exact h.missing w (List.mem_cons_of_mem _ hw)

theorem done (h : Restores d e key []) (k : κ) : e.get? k = d.get? k := by
  cases hd : d.get? k with
  | none => exact h.get?_none hd
  | some v =>
    rcases (h.get?_iff k v).mp hd with he | ⟨hv, _⟩
    · exact he
    · simp at hv

end Restores

end Lookup

end Dict
