import TraceBackedMemory.Projection.Reducer

namespace TraceBackedMemory

open Text Raising OrderBy

namespace Projection

section SortedShapes

theorem shaped_sortKeys {number : Number → Bool} {key : Str → Bool} {value : Json}
    (h : value.shaped Json.distinct number key = true) :
    value.sortKeys.shaped Json.increasing number key = true := by
  induction value using Json.inductOn with
  | null | bool b | num n | str s => exact h
  | arr items ih =>
    have hitems := Json.shapedItems_iff.mp h
    rw [Json.sortKeys, Json.sortItems_eq]
    refine Json.shapedItems_iff.mpr (List.forall_mem_map.mpr ?_)
    intro v hv
    exact ih v hv (hitems v hv)
  | obj fields ih =>
    obtain ⟨hkeys, hfields⟩ := Json.shaped_obj.mp h
    have hnodup := Json.nodup_of_distinct hkeys
    rw [Json.sortKeys]
    refine Json.shaped_obj.mpr ⟨?_, ?_⟩
    · have hsorted := orderBy_pairwise Prod.fst (Json.sortFields fields)
      have hdistinct : (orderBy Prod.fst (Json.sortFields fields)).Pairwise (fun a b => a.1 ≠ b.1) := by
        refine ((orderBy_perm Prod.fst (Json.sortFields fields)).pairwise_iff
          (fun hne => hne.symm)).mpr ?_
        rw [← List.pairwise_map (R := (· ≠ ·)), Json.keys_sortFields]
        exact hnodup
      exact hsorted.imp₂ (fun a b hle hne => decide_eq_true (lt_of_le_of_ne hle hne)) hdistinct
    · intro field hf
      rw [Json.sortFields_eq] at hf
      obtain ⟨original, ho, rfl⟩ := List.mem_map.mp (mem_orderBy.mp hf)
      obtain ⟨hkey, hvalue⟩ := hfields original ho
      exact ⟨hkey, ih original ho hvalue⟩

theorem copyItems_sortItems {items : List Json} (h : ∀ v ∈ items, copyState v.sortKeys = copyState v)
    (path : Str) (depth index nodes : Nat) :
    copyItems path depth index (Json.sortItems items) nodes = copyItems path depth index items nodes := by
  induction items generalizing index nodes with
  | nil => rfl
  | cons v items ih =>
    rw [Json.sortItems, copyItems, copyItems, h v List.mem_cons_self]
    simp only [ih (fun w hw => h w (List.mem_cons_of_mem _ hw))]

theorem copyState_sortKeys {value : Json} (h : value.shaped Json.distinct stateNumber objectKey = true) :
    copyState value.sortKeys = copyState value := by
  induction value using Json.inductOn with
  | null | bool b | num n | str s => rfl
  | arr items ih =>
    have hitems := Json.shapedItems_iff.mp h
    funext path depth nodes
    rw [Json.sortKeys, copyState, copyState]
    simp only [copyItems_sortItems fun v hv => ih v hv (hitems v hv)]
  | obj fields ih =>
    obtain ⟨-, hfields⟩ := Json.shaped_obj.mp h
    obtain ⟨hsorted, hsorts⟩ := Json.shaped_obj.mp (shaped_sortKeys h)
    have hcheck {l : List (Str × Json)} (hl : ∀ field ∈ l, objectKey field.1 = true) (path : Str) :
        checkEach (fun field => raiseIf (objectKey field.1 = false)
          (invalidState (path ++ lit " contains an invalid object key"))) l = .ok () :=
      checkEach_eq_ok.mpr fun field hf => raiseIf_of_not (by simp [hl field hf])
    have hcopiers : copiers (Json.sortFields fields) = copiers fields := by
      rw [copiers_eq, copiers_eq, Json.sortFields_eq, List.map_map]
      refine List.map_congr_left fun field hf => ?_
      simp only [Function.comp_apply, ih field hf (hfields field hf).2]
    have hentries : orderBy Prod.fst (copiers (orderBy Prod.fst (Json.sortFields fields))) =
        orderBy Prod.fst (copiers fields) := by
      rw [orderBy_copiers hsorted, ← orderBy_copiers_eq, hcopiers]
    funext path depth nodes
    rw [Json.sortKeys, copyState, copyState]
    simp only [hcheck (fun field hf => (hsorts field hf).1),
      hcheck (fun field hf => (hfields field hf).1), hentries]

end SortedShapes

section Fitting

structure Fits (value : Json) : Prop where
  nodes : nodeCount value ≤ maxStateNodes
  depth : height value ≤ maxStateDepth
  bytes : ∀ n, encodedBytes (stateText value) = some n → n ≤ maxStateBytes

theorem Storable.stateShaped {value : Json} (h : Storable value) : StateShaped value.sortKeys :=
  shaped_sortKeys h.shaped

theorem Storable.canonical_iff {value : Json} (h : Storable value) :
    (∃ copied, canonicalProjectionState value = .ok copied) ↔ Fits value.sortKeys := by
  have hform := Json.pyType_form value
  rw [h.root] at hform
  obtain ⟨fields, hfields⟩ : ∃ fields, value = .obj fields := hform
  constructor
  · rintro ⟨copied, hok⟩
    obtain ⟨state, hstate⟩ := canonicalProjectionState_eq_ok h.distinctKeys hok
    rw [← canonicalProjectionState_sorts hok, hstate]
    refine ⟨state.nodes, state.depth, ?_⟩
    intro n hn
    have hbytes := state.bytes
    have htext : encodedBytes (stateText (.obj state.fields)) = some n := hn
    simpa only [checkEncoding, htext, demand, bind_eq_ok, Except.ok.injEq, exists_eq_left',
      raiseIf_eq_ok, not_lt] using hbytes
  · intro hfits
    have hcopy : copyState value (lit "state") 0 0 = .ok (value.sortKeys, 0 + nodeCount value.sortKeys) := by
      rw [← copyState_sortKeys h.shaped]
      exact copyState_shaped h.stateShaped (by rw [Nat.zero_add]; exact hfits.depth)
        (by rw [Nat.zero_add]; exact hfits.nodes)
    have hencodes := encodable_sortKeys h.encodes
    obtain ⟨n, hn⟩ := Option.isSome_iff_exists.mp
      (encodedBytes_isSome.mpr (clean_stateText h.stateShaped hencodes))
    have hbytes : checkEncoding value.sortKeys = .ok () := by
      simp only [checkEncoding, hn, demand, bind_eq_ok, Except.ok.injEq, exists_eq_left',
        raiseIf_eq_ok, not_lt]
      exact hfits.bytes n hn
    refine ⟨value.sortKeys, ?_⟩
    rw [canonicalProjectionState, raiseIf_of_not (not_not.mpr h.root)]
    simp only [bind, Except.bind, hcopy, hbytes]
    rfl

end Fitting

end Projection

end TraceBackedMemory
