import TraceBackedMemory.Foundation.JsonScan

namespace Json

open Text Raising OrderBy

section Measures

mutual

def size : Json → Nat
  | .arr items => 1 + sizeItems items
  | .obj fields => 1 + sizeFields fields
  | _ => 1

def sizeItems : List Json → Nat
  | [] => 0
  | v :: items => size v + sizeItems items

def sizeFields : List (Str × Json) → Nat
  | [] => 0
  | (_, v) :: fields => size v + sizeFields fields

end

mutual

def height : Json → Nat
  | .arr items => heightItems items
  | .obj fields => heightFields fields
  | _ => 0

def heightItems : List Json → Nat
  | [] => 0
  | v :: items => max (height v + 1) (heightItems items)

def heightFields : List (Str × Json) → Nat
  | [] => 0
  | (_, v) :: fields => max (height v + 1) (heightFields fields)

end

def encodes (s : Str) : Bool := (encodedBytes s).isSome

variable (key : Str → Bool)

mutual

def clean : Json → Bool
  | .num n => n.isFinite
  | .str s => encodes s
  | .arr items => cleanItems items
  | .obj fields => cleanFields fields
  | _ => true

def cleanItems : List Json → Bool
  | [] => true
  | v :: items => clean v && cleanItems items

def cleanFields : List (Str × Json) → Bool
  | [] => true
  | (k, v) :: fields => key k && clean v && cleanFields fields

end

end Measures

section Lists

variable {key : Str → Bool}

theorem sizeItems_eq (items : List Json) : sizeItems items = (items.map size).sum := by
  induction items with
  | nil => rfl
  | cons v items ih => rw [sizeItems, ih, List.map_cons, List.sum_cons]

theorem sizeFields_eq (fields : List (Str × Json)) :
    sizeFields fields = (fields.map (fun field => size field.2)).sum := by
  induction fields with
  | nil => rfl
  | cons field fields ih => rw [sizeFields, ih, List.map_cons, List.sum_cons]

theorem one_le_size (v : Json) : 1 ≤ size v := by
  cases v with
  | null | bool b | num n | str s => exact le_refl _
  | arr items =>
    rw [size]
    exact Nat.le_add_right _ _
  | obj fields =>
    rw [size]
    exact Nat.le_add_right _ _

theorem length_le_sum {α : Type} {f : α → Nat} (h : ∀ a, 1 ≤ f a) (l : List α) :
    l.length ≤ (l.map f).sum := by
  induction l with
  | nil => exact le_refl _
  | cons a l ih =>
    have ha := h a
    simp only [List.length_cons, List.map_cons, List.sum_cons]
    omega

theorem heightItems_le {items : List Json} {n : Nat} :
    heightItems items ≤ n ↔ ∀ v ∈ items, height v + 1 ≤ n := by
  induction items with
  | nil => simp [heightItems]
  | cons v items ih => rw [heightItems, Nat.max_le, ih, List.forall_mem_cons]

theorem heightFields_le {fields : List (Str × Json)} {n : Nat} :
    heightFields fields ≤ n ↔ ∀ field ∈ fields, height field.2 + 1 ≤ n := by
  induction fields with
  | nil => simp [heightFields]
  | cons field fields ih => rw [heightFields, Nat.max_le, ih, List.forall_mem_cons]

theorem cleanItems_iff {items : List Json} :
    cleanItems key items = true ↔ ∀ v ∈ items, clean key v = true := by
  induction items with
  | nil => simp [cleanItems]
  | cons v items ih => simp [cleanItems, ih]

theorem cleanFields_iff {fields : List (Str × Json)} :
    cleanFields key fields = true ↔ ∀ field ∈ fields, key field.1 = true ∧ clean key field.2 = true := by
  induction fields with
  | nil => simp [cleanFields]
  | cons field fields ih => simp [cleanFields, ih]

end Lists

section Sorting

variable {key : Str → Bool}

theorem mem_sortedFields {fields : List (Str × Json)} {field : Str × Json} :
    field ∈ orderBy Prod.fst (sortFields fields) ↔
      ∃ original ∈ fields, (original.1, sortKeys original.2) = field := by
  rw [mem_orderBy, sortFields_eq, List.mem_map]

theorem size_sortKeys (v : Json) : size (sortKeys v) = size v := by
  induction v using inductOn with
  | null | bool b | num n | str s => rfl
  | arr items ih =>
    rw [sortKeys, size, size, sizeItems_eq, sizeItems_eq, sortItems_eq, List.map_map]
    congr 2
    exact List.map_congr_left ih
  | obj fields ih =>
    have hperm := (orderBy_perm Prod.fst (sortFields fields)).map (fun field => size field.2)
    rw [sortKeys, size, size, sizeFields_eq, sizeFields_eq, hperm.sum_nat, sortFields_eq, List.map_map]
    congr 2
    exact List.map_congr_left ih

theorem height_sortKeys_le {v : Json} {n : Nat} : height (sortKeys v) ≤ n ↔ height v ≤ n := by
  induction v using inductOn generalizing n with
  | null | bool b | num m | str s => rfl
  | arr items ih =>
    rw [sortKeys, height, height, heightItems_le, heightItems_le, sortItems_eq, List.forall_mem_map]
    refine forall₂_congr fun v hv => ?_
    cases n with
    | zero => simp
    | succ n => rw [Nat.add_le_add_iff_right, Nat.add_le_add_iff_right, ih v hv]
  | obj fields ih =>
    rw [sortKeys, height, height, heightFields_le, heightFields_le]
    constructor
    · intro h field hf
      have hsorted := h _ (mem_sortedFields.mpr ⟨field, hf, rfl⟩)
      cases n with
      | zero => simp at hsorted
      | succ n => exact Nat.succ_le_succ ((ih field hf).mp (Nat.le_of_succ_le_succ hsorted))
    · intro h field hf
      obtain ⟨original, horiginal, rfl⟩ := mem_sortedFields.mp hf
      have hfield := h original horiginal
      cases n with
      | zero => simp at hfield
      | succ n => exact Nat.succ_le_succ ((ih original horiginal).mpr (Nat.le_of_succ_le_succ hfield))

theorem clean_sortKeys {v : Json} : clean key (sortKeys v) = true ↔ clean key v = true := by
  induction v using inductOn with
  | null | bool b | num n | str s => rfl
  | arr items ih =>
    rw [sortKeys, clean, clean, cleanItems_iff, cleanItems_iff, sortItems_eq, List.forall_mem_map]
    exact forall₂_congr ih
  | obj fields ih =>
    rw [sortKeys, clean, clean, cleanFields_iff, cleanFields_iff]
    constructor
    · intro h field hf
      obtain ⟨hkey, hclean⟩ := h _ (mem_sortedFields.mpr ⟨field, hf, rfl⟩)
      exact ⟨hkey, (ih field hf).mp hclean⟩
    · intro h field hf
      obtain ⟨original, horiginal, rfl⟩ := mem_sortedFields.mp hf
      exact ⟨(h original horiginal).1, (ih original horiginal).mpr (h original horiginal).2⟩

end Sorting

section Bounds

inductive BoundFault where
  | depth
  | nodes
  | nonFinite
  | invalidString
  | invalidKey
  deriving DecidableEq

structure JsonBounds where
  maxNodes : Nat
  maxDepth : Nat

variable (bounds : JsonBounds)

def visit (nodes : Nat) : Json → Except BoundFault (List Json)
  | .num n => do
    raiseIf (n.isFinite = false) .nonFinite
    return []
  | .str s => do
    raiseIf (encodes s = false) .invalidString
    return []
  | .arr items => do
    raiseIf (bounds.maxNodes - nodes < items.length) .nodes
    return items
  | .obj fields => do
    raiseIf (bounds.maxNodes - nodes < fields.length) .nodes
    checkEach (fun field => raiseIf (encodes field.1 = false) .invalidKey) fields
    return fields.map Prod.snd
  | _ => .ok []

-- the last value pushed is the first one visited; one more visit than the node limit raises
def walk : Nat → Nat → List (Json × Nat) → Except BoundFault Unit
  | _, _, [] => .ok ()
  | 0, _, _ => .error .nodes
  | fuel + 1, nodes, (v, depth) :: pending => do
    raiseIf (bounds.maxDepth < depth) .depth
    raiseIf (bounds.maxNodes < nodes + 1) .nodes
    let children ← visit bounds (nodes + 1) v
    walk fuel (nodes + 1) ((children.map (fun child => (child, depth + 1))).reverse ++ pending)

inductive JsonFault where
  | scan (fault : ScanFault)
  | bound (fault : BoundFault)
  deriving DecidableEq

def parseBoundedJson (codec : FloatCodec) (s : Str) : Except JsonFault Json :=
  match scanDocument codec s with
  | .error fault => .error (.scan fault)
  | .ok v =>
    match walk bounds (bounds.maxNodes + 1) 0 [(v, 0)] with
    | .error fault => .error (.bound fault)
    | .ok _ => .ok v

variable {bounds}

def load (pending : List (Json × Nat)) : Nat := (pending.map (fun p => size p.1)).sum

theorem load_children (children : List Json) (depth : Nat) (pending : List (Json × Nat)) :
    load ((children.map (fun child => (child, depth))).reverse ++ pending) =
      (children.map size).sum + load pending := by
  rw [load, List.map_append, List.sum_append, List.map_reverse, List.sum_reverse, List.map_map]
  rfl

theorem visit_of_clean {v : Json} {nodes : Nat} (hclean : clean encodes v = true)
    (hnodes : nodes + size v ≤ bounds.maxNodes + 1) :
    ∃ children, visit bounds nodes v = .ok children ∧ size v = 1 + (children.map size).sum ∧
      ∀ child ∈ children, clean encodes child = true ∧ height child + 1 ≤ height v := by
  cases v with
  | null | bool b => exact ⟨[], rfl, rfl, fun _ h => by cases h⟩
  | num n =>
    refine ⟨[], ?_, rfl, fun _ h => by cases h⟩
    have hfinite : ¬n.isFinite = false := by simpa [clean] using hclean
    rw [visit, raiseIf_of_not hfinite]
    rfl
  | str s =>
    refine ⟨[], ?_, rfl, fun _ h => by cases h⟩
    have hencodes : ¬encodes s = false := by simpa [clean] using hclean
    rw [visit, raiseIf_of_not hencodes]
    rfl
  | arr items =>
    rw [size, sizeItems_eq] at hnodes
    have hlength := length_le_sum one_le_size items
    refine ⟨items, ?_, by rw [size, sizeItems_eq], fun child hchild => ⟨cleanItems_iff.mp hclean child hchild,
      heightItems_le.mp (le_refl _) child hchild⟩⟩
    rw [visit, raiseIf_of_not (by omega)]
    rfl
  | obj fields =>
    rw [size, sizeFields_eq] at hnodes
    have hfields := cleanFields_iff.mp hclean
    have hlength := length_le_sum (fun field => one_le_size field.2) fields
    have hkeys : checkEach (fun field : Str × Json => raiseIf (encodes field.1 = false)
        BoundFault.invalidKey) fields = .ok () := by
      rw [checkEach_eq_ok]
      intro field hf
      rw [raiseIf_eq_ok]
      simp [(hfields field hf).1]
    refine ⟨fields.map Prod.snd, ?_, by rw [size, sizeFields_eq, List.map_map]; rfl, fun child hchild => ?_⟩
    · rw [visit, raiseIf_of_not (by omega), hkeys]
      rfl
    · obtain ⟨field, hf, rfl⟩ := List.mem_map.mp hchild
      exact ⟨(hfields field hf).2, heightFields_le.mp (le_refl _) field hf⟩

theorem walk_of_clean {fuel nodes : Nat} {pending : List (Json × Nat)}
    (hclean : ∀ p ∈ pending, clean encodes p.1 = true ∧ p.2 + height p.1 ≤ bounds.maxDepth)
    (hnodes : nodes + load pending ≤ bounds.maxNodes) (hfuel : load pending ≤ fuel) :
    walk bounds fuel nodes pending = .ok () := by
  induction fuel generalizing nodes pending with
  | zero =>
    cases pending with
    | nil => rfl
    | cons p pending =>
      have hsize := one_le_size p.1
      simp only [load, List.map_cons, List.sum_cons] at hfuel
      omega
  | succ fuel ih =>
    cases pending with
    | nil => rfl
    | cons p pending =>
      obtain ⟨v, depth⟩ := p
      obtain ⟨hv, hdepth⟩ : clean encodes v = true ∧ depth + height v ≤ bounds.maxDepth :=
        hclean (v, depth) List.mem_cons_self
      have hload : load ((v, depth) :: pending) = size v + load pending := rfl
      rw [hload] at hnodes hfuel
      have hsize := one_le_size v
      obtain ⟨children, hvisit, hsum, hchildren⟩ :=
        @visit_of_clean bounds v (nodes + 1) hv (by omega)
      have hrest := load_children children (depth + 1) pending
      have hwalk := @ih (nodes + 1) ((children.map (fun child => (child, depth + 1))).reverse ++ pending)
        (fun q hq => by
          rcases List.mem_append.mp hq with hq | hq
          · obtain ⟨child, hchild, rfl⟩ := List.mem_map.mp (List.mem_reverse.mp hq)
            obtain ⟨hc, hh⟩ := hchildren child hchild
            exact ⟨hc, by dsimp only; omega⟩
          · exact hclean q (List.mem_cons_of_mem _ hq))
        (by omega) (by omega)
      rw [walk, raiseIf_of_not (by omega), raiseIf_of_not (by omega)]
      dsimp only [bind, Except.bind]
      rw [hvisit]
      exact hwalk

theorem parseBoundedJson_canonical {codec : FloatCodec} {v : Json}
    (hshaped : shaped distinct legible key v = true) (hclean : clean encodes v = true)
    (hsize : size v ≤ bounds.maxNodes) (hheight : height v ≤ bounds.maxDepth) :
    parseBoundedJson bounds codec (canonicalText codec.repr v) = .ok (sortKeys v) := by
  have hload : load [(sortKeys v, 0)] = size v := by
    rw [load, List.map_singleton, List.sum_singleton, size_sortKeys]
  have hwalk : walk bounds (bounds.maxNodes + 1) 0 [(sortKeys v, 0)] = .ok () := by
    apply walk_of_clean
    · intro p hp
      obtain rfl := List.mem_singleton.mp hp
      exact ⟨clean_sortKeys.mpr hclean, by rw [Nat.zero_add]; exact height_sortKeys_le.mpr hheight⟩
    · omega
    · omega
  rw [parseBoundedJson, scanDocument_canonical hshaped]
  dsimp only
  rw [hwalk]

end Bounds

section Mappings

variable {codec : FloatCodec}

-- no object of the value has one key twice
abbrev isMapping (v : Json) : Bool := shaped distinct (fun _ => true) (fun _ => true) v

theorem isMapping_of_atom {s r : Str} {v : Json} (h : scanAtom codec s = .ok (v, r)) : isMapping v = true := by
  have hconstants : ∀ constant ∈ jsonConstants, isMapping constant.2 = true := by
    simp [jsonConstants, shaped]
  unfold scanAtom at h
  split at h
  · rename_i constant hfound
    cases h
    exact hconstants constant (List.mem_of_find?_eq_some hfound)
  · split at h
    · cases h
    · simp only [bind_eq_ok, demand_eq_ok, pure_eq_ok, Prod.exists, Prod.mk.injEq] at h
      obtain ⟨_, _, -, _, -, rfl, -⟩ := h
      rfl

theorem isMapping_of_unique {fields : List (Str × Json)} {v : Json} (h : uniqueObject fields = .ok v)
    (hfields : ∀ field ∈ fields, isMapping field.2 = true) : isMapping v = true := by
  unfold uniqueObject at h
  split at h
  · cases h
  · rename_i hunique
    cases h
    exact shaped_obj.mpr ⟨distinct_of_nodup (firstDuplicate_eq_none.mp hunique).1,
      fun field hf => ⟨rfl, hfields field hf⟩⟩

theorem isMapping_of_scan (fuel : Nat) :
    (∀ s v r, scanValue codec fuel s = .ok (v, r) → isMapping v = true) ∧
      (∀ s items r, scanItems codec fuel s = .ok (items, r) → ∀ v ∈ items, isMapping v = true) ∧
        ∀ s fields r, scanFields codec fuel s = .ok (fields, r) → ∀ field ∈ fields, isMapping field.2 = true := by
  induction fuel with
  | zero =>
    refine ⟨?_, ?_, ?_⟩
    · intro s v r h
      rw [scanValue] at h
      cases h
    · intro s items r h
      rw [scanItems] at h
      cases h
    · intro s fields r h
      rw [scanFields] at h
      cases h
  | succ fuel ih =>
    obtain ⟨hvalue, hitems, hfields⟩ := ih
    refine ⟨?_, ?_, ?_⟩
    · intro s v r h
      cases s with
      | nil =>
        rw [scanValue] at h
        cases h
      | cons c s =>
        rw [scanValue] at h
        split at h
        · simp only [bind_eq_ok, demand_eq_ok, pure_eq_ok, Prod.exists, Prod.mk.injEq] at h
          obtain ⟨_, _, -, rfl, -⟩ := h
          rfl
        · split at h
          · cases hs : skip s with
            | nil =>
              rw [hs] at h
              cases h
            | cons d t =>
              rw [hs] at h
              dsimp only at h
              split at h
              · cases h
                rfl
              · simp only [bind_eq_ok, pure_eq_ok, Prod.exists, Prod.mk.injEq] at h
                obtain ⟨items, _, hscan, rfl, -⟩ := h
                exact shapedItems_iff.mpr (hitems _ _ _ hscan)
          · split at h
            · cases hs : skip s with
              | nil =>
                rw [hs] at h
                cases h
              | cons d t =>
                rw [hs] at h
                dsimp only at h
                split at h
                · cases h
                  rfl
                · simp only [bind_eq_ok, pure_eq_ok, Prod.exists, Prod.mk.injEq] at h
                  obtain ⟨fields, _, hscan, _, hunique, rfl, -⟩ := h
                  exact isMapping_of_unique hunique (hfields _ _ _ hscan)
            · exact isMapping_of_atom h
    · intro s items r h
      simp only [scanItems, bind_eq_ok, Prod.exists] at h
      obtain ⟨v, rest, hscan, h⟩ := h
      have hv := hvalue _ _ _ hscan
      cases hs : skip rest with
      | nil =>
        rw [hs] at h
        cases h
      | cons c t =>
        rw [hs] at h
        dsimp only at h
        split at h
        · cases h
          exact List.forall_mem_singleton.mpr hv
        · simp only [bind_eq_ok, exists_unit, pure_eq_ok, Prod.exists, Prod.mk.injEq] at h
          obtain ⟨-, items, _, hrest, rfl, -⟩ := h
          exact List.forall_mem_cons.mpr ⟨hv, hitems _ _ _ hrest⟩
    · intro s fields r h
      simp only [scanFields, bind_eq_ok, Prod.exists] at h
      obtain ⟨key, _, -, v, rest, hscan, h⟩ := h
      have hv := hvalue _ _ _ hscan
      cases hs : skip rest with
      | nil =>
        rw [hs] at h
        cases h
      | cons c t =>
        rw [hs] at h
        dsimp only at h
        split at h
        · cases h
          exact List.forall_mem_singleton.mpr hv
        · simp only [bind_eq_ok, exists_unit, pure_eq_ok, Prod.exists, Prod.mk.injEq] at h
          obtain ⟨-, fields, _, hrest, rfl, -⟩ := h
          exact List.forall_mem_cons.mpr ⟨hv, hfields _ _ _ hrest⟩

theorem isMapping_of_parsed {bounds : JsonBounds} {s : Str} {v : Json}
    (h : parseBoundedJson bounds codec s = .ok v) : isMapping v = true := by
  unfold parseBoundedJson at h
  split at h
  · cases h
  · rename_i w hscan
    split at h
    · cases h
    · cases h
      simp only [scanDocument, bind_eq_ok, exists_unit, pure_eq_ok, Prod.exists] at hscan
      obtain ⟨v, r, hvalue, -, rfl⟩ := hscan
      exact (isMapping_of_scan _).1 _ _ _ hvalue

end Mappings

end Json
