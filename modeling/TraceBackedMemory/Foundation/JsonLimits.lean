import TraceBackedMemory.Foundation.JsonBounds
import TraceBackedMemory.Foundation.JsonRecord

namespace Json

open Text Raising OrderBy

section Nodes

variable {bounds : JsonBounds}

theorem visit_size {v : Json} {nodes : Nat} {children : List Json} (h : visit bounds nodes v = .ok children) :
    size v = 1 + (children.map size).sum := by
  cases v with
  | null | bool b =>
    cases h
    rfl
  | num n =>
    simp only [visit, bind_eq_ok, exists_unit, pure_eq_ok] at h
    obtain ⟨-, rfl⟩ := h
    rfl
  | str s =>
    simp only [visit, bind_eq_ok, exists_unit, pure_eq_ok] at h
    obtain ⟨-, rfl⟩ := h
    rfl
  | arr items =>
    simp only [visit, bind_eq_ok, exists_unit, pure_eq_ok] at h
    obtain ⟨-, rfl⟩ := h
    rw [size, sizeItems_eq]
  | obj fields =>
    simp only [visit, bind_eq_ok, exists_unit, pure_eq_ok] at h
    obtain ⟨-, -, rfl⟩ := h
    rw [size, sizeFields_eq, List.map_map]
    rfl

-- every visited value is counted, so a walk that ends has counted every node
theorem walk_size {fuel nodes : Nat} {pending : List (Json × Nat)} (h : walk bounds fuel nodes pending = .ok ())
    (hnodes : nodes ≤ bounds.maxNodes) : nodes + load pending ≤ bounds.maxNodes := by
  induction fuel generalizing nodes pending with
  | zero =>
    cases pending with
    | nil => exact hnodes
    | cons p pending => cases h
  | succ fuel ih =>
    cases pending with
    | nil => exact hnodes
    | cons p pending =>
      obtain ⟨v, depth⟩ := p
      simp only [walk, bind_eq_ok, exists_unit, raiseIf_eq_ok] at h
      obtain ⟨-, hcount, children, hvisit, hrest⟩ := h
      have hload := ih hrest (by omega)
      rw [load_children] at hload
      have hsize := visit_size hvisit
      have hcons : load ((v, depth) :: pending) = size v + load pending := rfl
      omega

theorem parseBoundedJson_size {codec : FloatCodec} {s : Str} {v : Json}
    (h : parseBoundedJson bounds codec s = .ok v) : size v ≤ bounds.maxNodes := by
  unfold parseBoundedJson at h
  split at h
  · cases h
  · rename_i w hscan
    split at h
    · cases h
    · rename_i hwalk
      cases h
      have hload := walk_size hwalk (Nat.zero_le _)
      have hsingle : load [(v, 0)] = size v := by rw [load, List.map_singleton, List.sum_singleton]
      omega

theorem parseBoundedJson_canonical_iff {codec : FloatCodec} {v : Json}
    (hshaped : shaped distinct legible key v = true) (hclean : clean encodes v = true)
    (hheight : height v ≤ bounds.maxDepth) :
    (∃ w, parseBoundedJson bounds codec (canonicalText codec.repr v) = .ok w) ↔ size v ≤ bounds.maxNodes := by
  constructor
  · rintro ⟨w, hw⟩
    have hsize := parseBoundedJson_size hw
    unfold parseBoundedJson at hw
    rw [scanDocument_canonical hshaped] at hw
    dsimp only at hw
    split at hw
    · cases hw
    · cases hw
      rwa [size_sortKeys] at hsize
  · intro hsize
    exact ⟨_, parseBoundedJson_canonical hshaped hclean hsize hheight⟩

end Nodes

section Records

variable {fields : Fields}

theorem sortKeys_records {α : Type} (entries : α → Fields) (l : List α) :
    sortKeys (.arr (l.map (fun a => .obj (entries a)))) = .arr (l.map (fun a => .obj (sorted (entries a)))) := by
  rw [sortKeys, sortItems_eq, List.map_map]
  rfl

theorem sortKeys_strings (l : List Str) : sortKeys (.arr (l.map .str)) = .arr (l.map .str) := by
  rw [sortKeys, sortItems_eq, List.map_map]
  rfl

theorem sortKeys_obj (fields : Fields) : sortKeys (.obj fields) = .obj (sorted fields) := rfl

end Records

section Portable

-- a value that its own canonical text gives back: each key once, numbers and strings that can be read
structure Portable (depth : Nat) (v : Json) : Prop where
  shaped : Json.shaped distinct legible (fun _ => true) v = true
  clean : Json.clean encodes v = true
  height : Json.height v ≤ depth

variable {depth : Nat}

theorem Portable.mono {depth' : Nat} {v : Json} (h : Portable depth v) (hle : depth ≤ depth') : Portable depth' v :=
  ⟨h.shaped, h.clean, h.height.trans hle⟩

theorem portable_null : Portable depth .null := ⟨rfl, rfl, Nat.zero_le _⟩

theorem portable_bool (b : Bool) : Portable depth (.bool b) := ⟨rfl, rfl, Nat.zero_le _⟩

theorem portable_num {n : Number} (hlegible : legible n = true) (hfinite : n.isFinite = true) :
    Portable depth (.num n) := ⟨hlegible, hfinite, Nat.zero_le _⟩

theorem portable_str {s : Str} (h : encodes s = true) : Portable depth (.str s) := ⟨rfl, h, Nat.zero_le _⟩

theorem portable_arr {items : List Json} (h : ∀ v ∈ items, Portable depth v) : Portable (depth + 1) (.arr items) :=
  ⟨shapedItems_iff.mpr fun v hv => (h v hv).shaped, cleanItems_iff.mpr fun v hv => (h v hv).clean,
    heightItems_le.mpr fun v hv => Nat.succ_le_succ (h v hv).height⟩

theorem portable_obj {fields : Fields} (hkeys : (fields.map Prod.fst).Nodup)
    (h : ∀ field ∈ fields, encodes field.1 = true ∧ Portable depth field.2) : Portable (depth + 1) (.obj fields) :=
  ⟨shaped_obj.mpr ⟨distinct_of_nodup hkeys, fun field hf => ⟨rfl, (h field hf).2.shaped⟩⟩,
    cleanFields_iff.mpr fun field hf => ⟨(h field hf).1, (h field hf).2.clean⟩,
    heightFields_le.mpr fun field hf => Nat.succ_le_succ (h field hf).2.height⟩

theorem portable_strings {l : List Str} (h : ∀ s ∈ l, encodes s = true) :
    Portable (depth + 1) (.arr (l.map .str)) := by
  refine portable_arr fun v hv => ?_
  obtain ⟨s, hs, rfl⟩ := List.mem_map.mp hv
  exact portable_str (h s hs)

theorem Portable.loads_iff {bounds : JsonBounds} {codec : FloatCodec} {v : Json} (h : Portable depth v)
    (hdepth : depth ≤ bounds.maxDepth) :
    (∃ w, parseBoundedJson bounds codec (canonicalText codec.repr v) = .ok w) ↔ size v ≤ bounds.maxNodes :=
  parseBoundedJson_canonical_iff h.shaped h.clean (h.height.trans hdepth)

theorem Portable.loads {bounds : JsonBounds} {codec : FloatCodec} {v : Json} (h : Portable depth v)
    (hdepth : depth ≤ bounds.maxDepth) (hsize : size v ≤ bounds.maxNodes) :
    parseBoundedJson bounds codec (canonicalText codec.repr v) = .ok (sortKeys v) :=
  parseBoundedJson_canonical h.shaped h.clean hsize (h.height.trans hdepth)

end Portable

end Json
