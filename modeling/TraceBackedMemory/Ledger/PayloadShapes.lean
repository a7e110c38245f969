import TraceBackedMemory.Ledger.Payloads
import TraceBackedMemory.Foundation.JsonBounds
import TraceBackedMemory.Projection.Reducer

namespace TraceBackedMemory

open Text Raising Json OrderBy

section Copying

variable {ε : Type} {p : CopyPolicy ε}

def goodKey (k : Str) : Bool := decide (k ≠ [] ∧ k.length ≤ maxKeyLength) && utf8 k

def Copies (p : CopyPolicy ε) (v : Json) : Prop :=
  ∀ depth nodes n, p.copy depth nodes v = .ok n ↔
    depth + height v ≤ p.maxDepth ∧ n = nodes + size v ∧ n ≤ p.maxNodes ∧ clean goodKey v = true

theorem enter_eq_ok {depth nodes n : Nat} :
    p.enter depth nodes = .ok n ↔ depth ≤ p.maxDepth ∧ n = nodes + 1 ∧ n ≤ p.maxNodes := by
  simp only [CopyPolicy.enter, bind_eq_ok, exists_unit, raiseIf_eq_ok, pure_eq_ok, not_lt]
  constructor
  · rintro ⟨hdepth, hnodes, rfl⟩
    exact ⟨hdepth, rfl, hnodes⟩
  · rintro ⟨hdepth, rfl, hnodes⟩
    exact ⟨hdepth, hnodes, rfl⟩

theorem reserve_eq_ok (h : p.checksText = true) {children nodes : Nat} :
    p.reserve children nodes = .ok () ↔ children ≤ p.maxNodes - nodes := by
  rw [CopyPolicy.reserve, raiseIf_eq_ok, h]
  simp

theorem checkText_eq_ok (h : p.checksText = true) {s : Str} {e : ε} :
    p.checkText s e = .ok () ↔ utf8 s = true := by
  rw [CopyPolicy.checkText, raiseIf_eq_ok, h]
  simp

theorem checkKey_eq_ok (h : p.checksText = true) {k : Str} : p.checkKey k = .ok () ↔ goodKey k = true := by
  rw [CopyPolicy.checkKey, bind_eq_ok, exists_unit, raiseIf_eq_ok, checkText_eq_ok h, goodKey,
    Bool.and_eq_true, decide_eq_true_eq, not_or, not_lt, ne_eq]

theorem copyItems_eq_ok {items : List Json} (h : ∀ v ∈ items, Copies p v) {depth nodes n : Nat} :
    p.copyItems depth nodes items = .ok n ↔
      (∀ v ∈ items, depth + 1 + height v ≤ p.maxDepth ∧ clean goodKey v = true) ∧
        n = nodes + sizeItems items ∧ (items ≠ [] → n ≤ p.maxNodes) := by
  induction items generalizing nodes with
  | nil =>
    rw [CopyPolicy.copyItems, Except.ok.injEq]
    exact ⟨fun h => ⟨fun _ hv => absurd hv List.not_mem_nil, h.symm, fun hne => absurd rfl hne⟩,
      fun h => h.2.1.symm⟩
  | cons v items ih =>
    have hrest (m : Nat) := @ih (fun w hw => h w (List.mem_cons_of_mem _ hw)) m
    simp only [CopyPolicy.copyItems, bind_eq_ok, h v List.mem_cons_self _ _ _, hrest, List.forall_mem_cons,
      sizeItems]
    constructor
    · rintro ⟨m, ⟨hdepth, rfl, hm, hclean⟩, hall, rfl, hbound⟩
      refine ⟨⟨⟨hdepth, hclean⟩, hall⟩, by omega, fun _ => ?_⟩
      cases items with
      | nil => exact hm
      | cons w items => exact hbound (List.cons_ne_nil _ _)
    · rintro ⟨⟨⟨hdepth, hclean⟩, hall⟩, rfl, hbound⟩
      have hbound := hbound (List.cons_ne_nil _ _)
      exact ⟨_, ⟨hdepth, rfl, by omega, hclean⟩, hall, by omega, fun _ => hbound⟩

theorem copyFields_eq_ok (htext : p.checksText = true) {fields : List (Str × Json)}
    (h : ∀ field ∈ fields, Copies p field.2) {depth nodes n : Nat} :
    p.copyFields depth nodes fields = .ok n ↔
      (∀ field ∈ fields, depth + 1 + height field.2 ≤ p.maxDepth ∧
        goodKey field.1 = true ∧ clean goodKey field.2 = true) ∧
        n = nodes + sizeFields fields ∧ (fields ≠ [] → n ≤ p.maxNodes) := by
  induction fields generalizing nodes with
  | nil =>
    rw [CopyPolicy.copyFields, Except.ok.injEq]
    exact ⟨fun h => ⟨fun _ hv => absurd hv List.not_mem_nil, h.symm, fun hne => absurd rfl hne⟩,
      fun h => h.2.1.symm⟩
  | cons field fields ih =>
    have hrest (m : Nat) := @ih (fun f hf => h f (List.mem_cons_of_mem _ hf)) m
    have hfield := h field List.mem_cons_self
    obtain ⟨k, v⟩ := field
    simp only [CopyPolicy.copyFields, bind_eq_ok, exists_unit, checkKey_eq_ok htext, hfield _ _ _, hrest,
      List.forall_mem_cons, sizeFields]
    constructor
    · rintro ⟨hkey, m, ⟨hdepth, rfl, hm, hclean⟩, hall, rfl, hbound⟩
      refine ⟨⟨⟨hdepth, hkey, hclean⟩, hall⟩, by omega, fun _ => ?_⟩
      cases fields with
      | nil => exact hm
      | cons f fields => exact hbound (List.cons_ne_nil _ _)
    · rintro ⟨⟨⟨hdepth, hkey, hclean⟩, hall⟩, rfl, hbound⟩
      have hbound := hbound (List.cons_ne_nil _ _)
      exact ⟨hkey, _, ⟨hdepth, rfl, by omega, hclean⟩, hall, by omega, fun _ => hbound⟩

theorem copies (htext : p.checksText = true) (v : Json) : Copies p v := by
  induction v using inductOn with
  | null | bool b =>
    intro depth nodes n
    rw [CopyPolicy.copy, enter_eq_ok]
    simp [height, size, clean]
  | num m =>
    intro depth nodes n
    simp only [CopyPolicy.copy, bind_eq_ok, enter_eq_ok, exists_unit, raiseIf_eq_ok, pure_eq_ok, height,
      size, clean, Bool.not_eq_false]
    constructor
    · rintro ⟨_, ⟨hdepth, rfl, hbound⟩, hfinite, rfl⟩
      exact ⟨hdepth, rfl, hbound, hfinite⟩
    · rintro ⟨hdepth, rfl, hbound, hfinite⟩
      exact ⟨_, ⟨hdepth, rfl, hbound⟩, hfinite, rfl⟩
  | str s =>
    intro depth nodes n
    simp only [CopyPolicy.copy, bind_eq_ok, enter_eq_ok, exists_unit, checkText_eq_ok htext, pure_eq_ok, height,
      size, clean]
    constructor
    · rintro ⟨_, ⟨hdepth, rfl, hbound⟩, hutf8, rfl⟩
      exact ⟨hdepth, rfl, hbound, hutf8⟩
    · rintro ⟨hdepth, rfl, hbound, hutf8⟩
      exact ⟨_, ⟨hdepth, rfl, hbound⟩, hutf8, rfl⟩
  | arr items ih =>
    intro depth nodes n
    have hlength : items.length ≤ sizeItems items := sizeItems_eq items ▸ length_le_sum one_le_size items
    simp only [CopyPolicy.copy, bind_eq_ok, enter_eq_ok, exists_unit, reserve_eq_ok htext, copyItems_eq_ok ih,
      height, size, clean, cleanItems_iff]
    constructor
    · rintro ⟨_, ⟨hdepth, rfl, hbound⟩, hreserve, hall, rfl, htotal⟩
      refine ⟨?_, by omega, ?_, fun v hv => (hall v hv).2⟩
      · have hheight : heightItems items ≤ p.maxDepth - depth :=
          heightItems_le.mpr fun v hv => by have := (hall v hv).1; omega
        omega
      · cases items with
        | nil => exact hbound
        | cons v items => exact htotal (List.cons_ne_nil _ _)
    · rintro ⟨hdepth, rfl, hbound, hclean⟩
      have hheight : ∀ v ∈ items, height v + 1 ≤ p.maxDepth - depth :=
        heightItems_le.mp (by omega)
      refine ⟨_, ⟨by omega, rfl, by omega⟩, by omega,
        fun v hv => ⟨by have := hheight v hv; omega, hclean v hv⟩, by omega, fun _ => hbound⟩
  | obj fields ih =>
    intro depth nodes n
    have hlength : fields.length ≤ sizeFields fields :=
      sizeFields_eq fields ▸ length_le_sum (fun field => one_le_size field.2) fields
    simp only [CopyPolicy.copy, bind_eq_ok, enter_eq_ok, exists_unit, reserve_eq_ok htext,
      copyFields_eq_ok htext ih, height, size, clean, cleanFields_iff]
    constructor
    · rintro ⟨_, ⟨hdepth, rfl, hbound⟩, hreserve, hall, rfl, htotal⟩
      refine ⟨?_, by omega, ?_, fun f hf => (hall f hf).2⟩
      · have hheight : heightFields fields ≤ p.maxDepth - depth :=
          heightFields_le.mpr fun f hf => by have := (hall f hf).1; omega
        omega
      · cases fields with
        | nil => exact hbound
        | cons f fields => exact htotal (List.cons_ne_nil _ _)
    · rintro ⟨hdepth, rfl, hbound, hclean⟩
      have hheight : ∀ f ∈ fields, height f.2 + 1 ≤ p.maxDepth - depth :=
        heightFields_le.mp (by omega)
      refine ⟨_, ⟨by omega, rfl, by omega⟩, by omega,
        fun f hf => ⟨by have := hheight f hf; omega, hclean f hf⟩, by omega, fun _ => hbound⟩

end Copying

section Secrets

theorem hasSecretItem_iff {items : List Json} :
    hasSecretItem items = true ↔ ∃ v ∈ items, hasSecretKey v = true := by
  induction items with
  | nil => simp [hasSecretItem]
  | cons v items ih => simp [hasSecretItem, ih]

theorem hasSecretField_iff {fields : List (Str × Json)} :
    hasSecretField fields = true ↔
      ∃ field ∈ fields, normalizedKey field.1 ∈ forbiddenSecretKeys ∨ hasSecretKey field.2 = true := by
  induction fields with
  | nil => simp [hasSecretField]
  | cons field fields ih => simp [hasSecretField, ih, or_assoc]

theorem hasSecretKey_sortKeys {v : Json} : hasSecretKey (sortKeys v) = true ↔ hasSecretKey v = true := by
  induction v using inductOn with
  | null | bool b | num n | str s => rfl
  | arr items ih =>
    rw [sortKeys, hasSecretKey, hasSecretKey, hasSecretItem_iff, hasSecretItem_iff, sortItems_eq]
    constructor
    · rintro ⟨w, hw, h⟩
      obtain ⟨v, hv, rfl⟩ := List.mem_map.mp hw
      exact ⟨v, hv, (ih v hv).mp h⟩
    · rintro ⟨v, hv, h⟩
      exact ⟨_, List.mem_map_of_mem hv, (ih v hv).mpr h⟩
  | obj fields ih =>
    rw [sortKeys, hasSecretKey, hasSecretKey, hasSecretField_iff, hasSecretField_iff]
    constructor
    · rintro ⟨field, hf, h⟩
      obtain ⟨original, horiginal, rfl⟩ := mem_sortedFields.mp hf
      exact ⟨original, horiginal, h.imp_right (ih original horiginal).mp⟩
    · rintro ⟨field, hf, h⟩
      exact ⟨_, mem_sortedFields.mpr ⟨field, hf, rfl⟩, h.imp_right (ih field hf).mpr⟩

end Secrets

section Texts

variable {floatText : Double → Str}

abbrev anyOrder : Str → Str → Bool := fun _ _ => true

abbrev anyKey : Str → Bool := fun _ => true

theorem shaped_any_sortKeys {number : Number → Bool} {v : Json} :
    shaped anyOrder number anyKey (sortKeys v) = true ↔ shaped anyOrder number anyKey v = true := by
  have hpairs (fields : List (Str × Json)) :
      fields.Pairwise (fun a b => anyOrder a.1 b.1 = true) := List.pairwise_of_forall fun _ _ => rfl
  induction v using inductOn with
  | null | bool b | num n | str s => rfl
  | arr items ih =>
    rw [sortKeys, shaped, shaped, shapedItems_iff, shapedItems_iff, sortItems_eq, List.forall_mem_map]
    exact forall₂_congr ih
  | obj fields ih =>
    rw [sortKeys, shaped_obj, shaped_obj]
    constructor
    · rintro ⟨-, h⟩
      refine ⟨hpairs _, fun field hf => ⟨rfl, (ih field hf).mp ?_⟩⟩
      exact (h _ (mem_sortedFields.mpr ⟨field, hf, rfl⟩)).2
    · rintro ⟨-, h⟩
      refine ⟨hpairs _, fun field hf => ⟨rfl, ?_⟩⟩
      obtain ⟨original, horiginal, rfl⟩ := mem_sortedFields.mp hf
      exact (ih original horiginal).mpr (h original horiginal).2

theorem canonicalBytes_sortKeys (v : Json) :
    canonicalBytes floatText (sortKeys v) = canonicalBytes floatText v := by
  have hshaped : shaped anyOrder textualNumber anyKey (sortKeys v) =
      shaped anyOrder textualNumber anyKey v := Bool.eq_iff_iff.mpr shaped_any_sortKeys
  unfold canonicalBytes
  rw [canonicalText_sortKeys]
  exact if_congr (by rw [← Bool.eq_iff_iff]; exact hshaped) rfl rfl

theorem isObject_sortKeys {v w : Json} (h : sortKeys v = sortKeys w) :
    (∃ fields, v = .obj fields) ↔ ∃ fields, w = .obj fields := by
  cases v <;> cases w <;> simp_all [sortKeys]

theorem validateEventPayload_eq_ok {payload : Json} :
    validateEventPayload floatText payload = .ok () ↔ (∃ fields, payload = .obj fields) ∧
      (height payload ≤ 24 ∧ size payload ≤ 8192 ∧ clean goodKey payload = true) ∧
        (∃ bytes, canonicalBytes floatText payload = some bytes ∧ bytes ≤ eventPayloadMaxBytes) ∧
          hasSecretKey payload = false := by
  have hcopy (n : Nat) : eventCopy.copy 0 0 payload = .ok n ↔
      height payload ≤ 24 ∧ n = size payload ∧ n ≤ 8192 ∧ clean goodKey payload = true := by
    have h := copies (p := eventCopy) rfl payload 0 0 n
    rwa [Nat.zero_add, Nat.zero_add] at h
  unfold validateEventPayload
  cases payload with
  | obj fields =>
    simp only [bind_eq_ok, exists_unit, hcopy, demand_eq_ok, raiseIf_eq_ok, not_lt, Bool.not_eq_true]
    constructor
    · rintro ⟨-, n, ⟨hheight, rfl, hsize, hclean⟩, bytes, hbytes, hbound, hsecret⟩
      exact ⟨⟨fields, rfl⟩, ⟨hheight, hsize, hclean⟩, ⟨bytes, hbytes, hbound⟩, hsecret⟩
    · rintro ⟨-, ⟨hheight, hsize, hclean⟩, ⟨bytes, hbytes, hbound⟩, hsecret⟩
      exact ⟨trivial, _, ⟨hheight, rfl, hsize, hclean⟩, bytes, hbytes, hbound, hsecret⟩
  | _ => simp [bind_eq_ok]

theorem validateEventPayload_congr {v w : Json} (h : sortKeys v = sortKeys w)
    (hv : validateEventPayload floatText v = .ok ()) : validateEventPayload floatText w = .ok () := by
  rw [validateEventPayload_eq_ok] at hv ⊢
  obtain ⟨hobject, ⟨hheight, hsize, hclean⟩, hbytes, hsecret⟩ := hv
  refine ⟨(isObject_sortKeys h).mp hobject, ⟨?_, ?_, ?_⟩, ?_, ?_⟩
  · exact height_sortKeys_le.mp (h ▸ height_sortKeys_le.mpr hheight)
  · rw [← size_sortKeys, ← h, size_sortKeys]
    exact hsize
  · exact clean_sortKeys.mp (h ▸ clean_sortKeys.mpr hclean)
  · rw [← canonicalBytes_sortKeys, ← h, canonicalBytes_sortKeys]
    exact hbytes
  · rw [Bool.eq_false_iff] at hsecret ⊢
    exact fun hw => hsecret (hasSecretKey_sortKeys.mp (h ▸ hasSecretKey_sortKeys.mpr hw))

theorem clean_of_joined {l : List Str} (h : Projection.Clean (joinComma l)) {t : Str} (ht : t ∈ l) :
    Projection.Clean t := by
  cases l with
  | nil => cases ht
  | cons u l =>
    rw [joinComma, Projection.clean_append] at h
    rcases List.mem_cons.mp ht with rfl | ht
    · exact h.1
    · exact fun c hc => h.2 c (List.mem_flatMap.mpr ⟨t, ht, List.mem_cons_of_mem _ hc⟩)

theorem encodes_of_quoted {s : Str} (h : Projection.Clean (quoted s)) : encodes s = true := by
  rw [encodes, Projection.encodedBytes_isSome]
  intro c hc
  rw [isSurrogate, decide_eq_false_iff_not]
  intro hsurrogate
  have hself : escapeControl c = [c] := by
    have hne (k : CodePoint) (hk : k.val < 128) : c ≠ k := by
      rintro rfl
      omega
    rw [escapeControl, shortEscape?, if_neg (hne 34 (by decide)), if_neg (hne 92 (by decide)),
      if_neg (hne 10 (by decide)), if_neg (hne 13 (by decide)), if_neg (hne 9 (by decide)),
      if_neg (hne 12 (by decide)), if_neg (hne 8 (by decide))]
    exact if_neg (by omega)
  have hmem : c ∈ quoted s := by
    rw [quoted, List.mem_cons, List.mem_append, List.mem_flatMap]
    exact .inr (.inl ⟨c, hc, by rw [hself]; exact List.mem_singleton.mpr rfl⟩)
  have hclean := h c hmem
  rw [isSurrogate, decide_eq_false_iff_not] at hclean
  exact hclean hsurrogate

theorem clean_of_canonical {v : Json} (h : shaped anyOrder textualNumber anyKey v = true)
    (htext : Projection.Clean (canonicalText floatText v)) : clean encodes v = true := by
  induction v using inductOn with
  | null | bool b => rfl
  | num n =>
    cases n with
    | int i => rfl
    | float x => exact h
  | str s => exact encodes_of_quoted htext
  | arr items ih =>
    have hitems := shapedItems_iff.mp h
    rw [canonicalText, itemTexts_eq, Projection.clean_cons, Projection.clean_append] at htext
    exact cleanItems_iff.mpr fun v hv =>
      ih v hv (hitems v hv) (clean_of_joined htext.2.1 (List.mem_map_of_mem hv))
  | obj fields ih =>
    obtain ⟨-, hfields⟩ := shaped_obj.mp h
    rw [canonicalText, fieldTexts_eq, Projection.clean_cons, Projection.clean_append] at htext
    refine cleanFields_iff.mpr fun field hf => ?_
    have hmem : quoted field.1 ++ 58 :: canonicalText floatText field.2 ∈
        (orderBy Prod.fst (fields.map (fun field => (field.1, canonicalText floatText field.2)))).map
          (fun field => quoted field.1 ++ 58 :: field.2) :=
      List.mem_map.mpr ⟨_, mem_orderBy.mpr (List.mem_map_of_mem hf), rfl⟩
    have hpair := clean_of_joined htext.2.1 hmem
    rw [Projection.clean_append, Projection.clean_cons] at hpair
    exact ⟨encodes_of_quoted hpair.1, ih field hf (hfields field hf).2 hpair.2.2⟩

theorem canonicalBytes_sound {v : Json} {bytes : Nat} (h : canonicalBytes floatText v = some bytes) :
    shaped anyOrder textualNumber anyKey v = true ∧ encodedBytes (canonicalText floatText v) = some bytes ∧
      clean encodes v = true := by
  unfold canonicalBytes at h
  split at h
  · rename_i hshaped
    have hclean := Projection.encodedBytes_isSome.mp (Option.isSome_of_eq_some h)
    exact ⟨hshaped, h, clean_of_canonical hshaped hclean⟩
  · cases h

end Texts

end TraceBackedMemory
