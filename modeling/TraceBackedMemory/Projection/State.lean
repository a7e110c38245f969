import TraceBackedMemory.Foundation.JsonText
import TraceBackedMemory.Ledger.Events

namespace TraceBackedMemory

open Text Raising OrderBy

inductive ProjectionFault where
  | reducer
  | reducerExecution
  | runtime
  | checkpoint
  | checkpointConflict
  | checkpointNotFound
  | eventRegistry
  | ledger
  deriving DecidableEq

structure ProjectionError where
  fault : ProjectionFault
  code : Str
  message : Str
  deriving DecidableEq

namespace Projection

section Copying

def maxStateBytes : Nat := 1024 * 1024

def maxStateDepth : Nat := 32

def maxStateNodes : Nat := 32768

def invalidState (message : Str) : ProjectionError :=
  ⟨.reducer, lit "TBM_REDUCER_STATE_INVALID", message⟩

def stateLimitExceeded (message : String) : ProjectionError :=
  ⟨.reducer, lit "TBM_REDUCER_STATE_LIMIT_EXCEEDED", lit message⟩

def signed64 (n : Int) : Bool := decide (-2 ^ 63 ≤ n ∧ n ≤ 2 ^ 63 - 1)

def objectKey (key : Str) : Bool := decide (key ≠ [] ∧ key.length ≤ 256)

abbrev Copier := Str → Nat → Nat → Except ProjectionError (Json × Nat)

def countNode (depth nodes : Nat) : Except ProjectionError Nat := do
  raiseIf (maxStateNodes < nodes + 1 ∨ maxStateDepth < depth)
    (stateLimitExceeded "projection state exceeds structural limits")
  return nodes + 1

def copyNumber (path : Str) : Number → Except ProjectionError Json
  | .int n => do
    raiseIf (signed64 n = false)
      (invalidState (path ++ lit " integer is outside the signed 64-bit range"))
    return .num (.int n)
  | .float _ =>
    .error (invalidState
      (path ++ lit " floating-point values are not deterministic projection state"))

def copyEntries (path : Str) (depth : Nat) :
    List (Str × Copier) → Nat → Except ProjectionError (List (Str × Json) × Nat)
  | [], nodes => .ok ([], nodes)
  | (key, copy) :: entries, nodes => do
    let value ← copy (path ++ lit "." ++ key) (depth + 1) nodes
    let copied ← copyEntries path depth entries value.2
    return ((key, value.1) :: copied.1, copied.2)

mutual

def copyState : Json → Copier
  | .num n => fun path depth nodes => do
    let nodes ← countNode depth nodes
    let copied ← copyNumber path n
    return (copied, nodes)
  | .obj fields => fun path depth nodes => do
    let nodes ← countNode depth nodes
    checkEach (fun field => raiseIf (objectKey field.1 = false)
      (invalidState (path ++ lit " contains an invalid object key"))) fields
    let copied ← copyEntries path depth (orderBy Prod.fst (copiers fields)) nodes
    return (.obj copied.1, copied.2)
  | .arr items => fun path depth nodes => do
    let nodes ← countNode depth nodes
    let copied ← copyItems path depth 0 items nodes
    return (.arr copied.1, copied.2)
  | value => fun _ depth nodes => do
    let nodes ← countNode depth nodes
    return (value, nodes)

def copyItems (path : Str) (depth index : Nat) : List Json → Nat → Except ProjectionError (List Json × Nat)
  | [], nodes => .ok ([], nodes)
  | item :: items, nodes => do
    let value ← copyState item (path ++ lit "[" ++ decimal index ++ lit "]") (depth + 1) nodes
    let copied ← copyItems path depth (index + 1) items value.2
    return (value.1 :: copied.1, copied.2)

def copiers : List (Str × Json) → List (Str × Copier)
  | [] => []
  | (key, value) :: fields => (key, copyState value) :: copiers fields

end

-- A copied state holds no floating-point number, so no float is ever written out.
def stateText (value : Json) : Str := value.canonicalText (fun _ => [])

def checkEncoding (value : Json) : Except ProjectionError Unit := do
  let encoded ← demand (encodedBytes (stateText value))
    (invalidState (lit "reducer value is not canonical JSON"))
  raiseIf (maxStateBytes < encoded)
    (stateLimitExceeded "projection state exceeds the byte limit")

def canonicalProjectionState (value : Json) : Except ProjectionError Json := do
  raiseIf (value.pyType ≠ .dict) (invalidState (lit "projection state root must be a mapping"))
  let copied ← copyState value (lit "state") 0 0
  checkEncoding copied.1
  return copied.1

end Copying

section CanonicalStates

def stateNumber : Number → Bool
  | .int n => signed64 n
  | .float _ => false

mutual

def nodeCount : Json → Nat
  | .arr items => 1 + itemsCount items
  | .obj fields => 1 + fieldsCount fields
  | _ => 1

def itemsCount : List Json → Nat
  | [] => 0
  | v :: l => nodeCount v + itemsCount l

def fieldsCount : List (Str × Json) → Nat
  | [] => 0
  | (_, v) :: l => nodeCount v + fieldsCount l

end

mutual

def height : Json → Nat
  | .arr items => itemsHeight items
  | .obj fields => fieldsHeight fields
  | _ => 0

def itemsHeight : List Json → Nat
  | [] => 0
  | v :: l => max (height v + 1) (itemsHeight l)

def fieldsHeight : List (Str × Json) → Nat
  | [] => 0
  | (_, v) :: l => max (height v + 1) (fieldsHeight l)

end

def StateShaped (value : Json) : Prop :=
  value.shaped Json.increasing stateNumber objectKey = true

instance decidableStateShaped (value : Json) : Decidable (StateShaped value) :=
  inferInstanceAs (Decidable (_ = true))

structure ProjectionState where
  fields : List (Str × Json)
  shaped : StateShaped (.obj fields)
  nodes : nodeCount (.obj fields) ≤ maxStateNodes
  depth : height (.obj fields) ≤ maxStateDepth
  bytes : checkEncoding (.obj fields) = .ok ()

def ProjectionState.value (state : ProjectionState) : Json := .obj state.fields

theorem StateShaped.plain {value : Json} (h : StateShaped value) : value.Plain := by
  refine Json.shaped_imp (fun _ _ => id) ?_ (fun _ _ => rfl) value h
  intro n hn
  cases n with
  | int n => rfl
  | float x => exact hn

theorem ProjectionState.plain (state : ProjectionState) : state.value.Plain := state.shaped.plain

theorem stateText_inj {a b : ProjectionState} :
    stateText a.value = stateText b.value ↔ a.value = b.value :=
  Json.canonicalText_inj _ a.plain b.plain

end CanonicalStates

section Fixpoint

theorem copiers_eq (fields : List (Str × Json)) :
    copiers fields = fields.map (fun field => (field.1, copyState field.2)) := by
  induction fields with
  | nil => rfl
  | cons field fields ih => rw [copiers, ih, List.map_cons]

theorem countNode_eq_ok {depth nodes n : Nat} :
    countNode depth nodes = .ok n ↔
      nodes + 1 ≤ maxStateNodes ∧ depth ≤ maxStateDepth ∧ n = nodes + 1 := by
  simp only [countNode, bind_eq_ok, exists_unit, raiseIf_eq_ok, pure_eq_ok, not_or, not_lt,
    and_assoc, @eq_comm _ n]

theorem copyItems_of_each {path : Str} {depth nodes : Nat} {items : List Json}
    (h : ∀ v ∈ items, ∀ path nodes, depth + 1 + height v ≤ maxStateDepth →
      nodes + nodeCount v ≤ maxStateNodes →
        copyState v path (depth + 1) nodes = .ok (v, nodes + nodeCount v))
    (hdepth : depth + itemsHeight items ≤ maxStateDepth)
    (hnodes : nodes + itemsCount items ≤ maxStateNodes) (index : Nat) :
    copyItems path depth index items nodes = .ok (items, nodes + itemsCount items) := by
  induction items generalizing nodes index with
  | nil => rfl
  | cons v items ih =>
    simp only [itemsHeight, itemsCount] at hdepth hnodes ⊢
    rw [copyItems, h v List.mem_cons_self _ _ (by omega) (by omega)]
    have hrest := ih (fun w hw => h w (List.mem_cons_of_mem _ hw)) (by omega)
      (by omega : nodes + nodeCount v + itemsCount items ≤ maxStateNodes) (index + 1)
    rw [Nat.add_assoc] at hrest
    simp only [bind, Except.bind, hrest]
    rfl

theorem copyEntries_of_each {path : Str} {depth nodes : Nat} {fields : List (Str × Json)}
    (h : ∀ field ∈ fields, ∀ path nodes, depth + 1 + height field.2 ≤ maxStateDepth →
      nodes + nodeCount field.2 ≤ maxStateNodes →
        copyState field.2 path (depth + 1) nodes = .ok (field.2, nodes + nodeCount field.2))
    (hdepth : depth + fieldsHeight fields ≤ maxStateDepth)
    (hnodes : nodes + fieldsCount fields ≤ maxStateNodes) :
    copyEntries path depth (copiers fields) nodes = .ok (fields, nodes + fieldsCount fields) := by
  induction fields generalizing nodes with
  | nil => rfl
  | cons field fields ih =>
    simp only [fieldsHeight, fieldsCount] at hdepth hnodes ⊢
    rw [copiers, copyEntries, h field List.mem_cons_self _ _ (by omega) (by omega)]
    have hrest := ih (fun f hf => h f (List.mem_cons_of_mem _ hf)) (by omega)
      (by omega : nodes + nodeCount field.2 + fieldsCount fields ≤ maxStateNodes)
    rw [Nat.add_assoc] at hrest
    simp only [bind, Except.bind, hrest]
    rfl

theorem orderBy_copiers {fields : List (Str × Json)}
    (h : fields.Pairwise (fun a b => Json.increasing a.1 b.1 = true)) :
    orderBy Prod.fst (copiers fields) = copiers fields := by
  apply orderBy_of_pairwise
  rw [copiers_eq, List.pairwise_map]
  exact h.imp fun hab => le_of_lt (of_decide_eq_true hab)

theorem copyState_shaped {value : Json} (h : StateShaped value) {path : Str} {depth nodes : Nat}
    (hdepth : depth + height value ≤ maxStateDepth)
    (hnodes : nodes + nodeCount value ≤ maxStateNodes) :
    copyState value path depth nodes = .ok (value, nodes + nodeCount value) := by
  have hcount (hn : nodes + 1 ≤ maxStateNodes) : countNode depth nodes = .ok (nodes + 1) :=
    countNode_eq_ok.mpr ⟨hn, by omega, rfl⟩
  induction value using Json.inductOn generalizing path depth nodes with
  | null => exact congrArg (· >>= _) (hcount hnodes)
  | bool b => exact congrArg (· >>= _) (hcount hnodes)
  | str s => exact congrArg (· >>= _) (hcount hnodes)
  | num n =>
    cases n with
    | float x => cases h
    | int n =>
      have hn : ¬signed64 n = false := fun hfalse => Bool.noConfusion (hfalse.symm.trans h)
      simp only [copyState, hcount hnodes, copyNumber, raiseIf_of_not hn, bind, Except.bind]
      rfl
  | arr items ih =>
    simp only [height, nodeCount] at hdepth hnodes ⊢
    have hitems := Json.shapedItems_iff.mp h
    have hcopied : copyItems path depth 0 items (nodes + 1) =
        .ok (items, nodes + 1 + itemsCount items) := by
      refine copyItems_of_each ?_ hdepth (by omega) 0
      intro v hv path nodes hd hn
      exact ih v hv (hitems v hv) hd hn fun hn => countNode_eq_ok.mpr ⟨hn, by omega, rfl⟩
    simp only [copyState, hcount (by omega), bind, Except.bind, hcopied, Nat.add_assoc]
    rfl
  | obj fields ih =>
    simp only [height, nodeCount] at hdepth hnodes ⊢
    obtain ⟨hsorted, hfields⟩ := Json.shaped_obj.mp h
    have hkeys : checkEach (fun field => raiseIf (objectKey field.1 = false)
        (invalidState (path ++ lit " contains an invalid object key"))) fields = .ok () :=
      checkEach_eq_ok.mpr fun field hf => raiseIf_of_not (by simp [(hfields field hf).1])
    have hcopied : copyEntries path depth (copiers fields) (nodes + 1) =
        .ok (fields, nodes + 1 + fieldsCount fields) := by
      refine copyEntries_of_each ?_ hdepth (by omega)
      intro field hf path nodes hd hn
      exact ih field hf (hfields field hf).2 hd hn
        fun hn => countNode_eq_ok.mpr ⟨hn, by omega, rfl⟩
    simp only [copyState, hcount (by omega), bind, Except.bind, hkeys, orderBy_copiers hsorted,
      hcopied, Nat.add_assoc]
    rfl

theorem ProjectionState.canonical (state : ProjectionState) :
    canonicalProjectionState state.value = .ok state.value := by
  have hcopied : copyState state.value (lit "state") 0 0 = .ok (state.value, 0 + _) :=
    copyState_shaped state.shaped ((Nat.zero_add _).symm ▸ state.depth)
      ((Nat.zero_add _).symm ▸ state.nodes)
  have hroot : ¬state.value.pyType ≠ .dict := fun h => h rfl
  have hbytes : checkEncoding state.value = .ok () := state.bytes
  simp only [canonicalProjectionState, raiseIf_of_not hroot, hcopied, bind, Except.bind, hbytes]
  rfl

end Fixpoint

section Soundness

def DistinctKeys (value : Json) : Prop :=
  value.shaped (fun a b => decide (a ≠ b)) (fun _ => true) (fun _ => true) = true

structure Copies (depth nodes : Nat) (copied : Json) (counted : Nat) : Prop where
  shaped : StateShaped copied
  counted_eq : counted = nodes + nodeCount copied
  nodes_le : counted ≤ maxStateNodes
  depth_le : depth + height copied ≤ maxStateDepth

def SoundCopier (copy : Copier) : Prop :=
  ∀ path depth nodes copied counted, copy path depth nodes = .ok (copied, counted) →
    Copies depth nodes copied counted

theorem copyItems_sound {items : List Json} (h : ∀ v ∈ items, SoundCopier (copyState v))
    {path : Str} {depth index nodes counted : Nat} {copied : List Json}
    (hdepth : depth ≤ maxStateDepth) (hnodes : nodes ≤ maxStateNodes)
    (hok : copyItems path depth index items nodes = .ok (copied, counted)) :
    (∀ v ∈ copied, StateShaped v) ∧ counted = nodes + itemsCount copied ∧
      counted ≤ maxStateNodes ∧ depth + itemsHeight copied ≤ maxStateDepth := by
  induction items generalizing index nodes copied with
  | nil =>
    cases hok
    exact ⟨List.forall_mem_nil _, rfl, hnodes, hdepth⟩
  | cons v items ih =>
    simp only [copyItems, bind_eq_ok, pure_eq_ok, Prod.mk.injEq] at hok
    obtain ⟨⟨c, n⟩, hc, ⟨cs, m⟩, hcs, rfl, rfl⟩ := hok
    obtain ⟨hshape, hn, hle, hd⟩ := h v List.mem_cons_self _ _ _ _ _ hc
    obtain ⟨hshapes, hm, hle', hd'⟩ := ih (fun w hw => h w (List.mem_cons_of_mem _ hw)) hle hcs
    simp only [itemsCount, itemsHeight]
    exact ⟨List.forall_mem_cons.mpr ⟨hshape, hshapes⟩, by omega, hle', by omega⟩

theorem copyEntries_sound {entries : List (Str × Copier)}
    (h : ∀ entry ∈ entries, SoundCopier entry.2)
    {path : Str} {depth nodes counted : Nat} {copied : List (Str × Json)}
    (hdepth : depth ≤ maxStateDepth) (hnodes : nodes ≤ maxStateNodes)
    (hok : copyEntries path depth entries nodes = .ok (copied, counted)) :
    copied.map Prod.fst = entries.map Prod.fst ∧ (∀ field ∈ copied, StateShaped field.2) ∧
      counted = nodes + fieldsCount copied ∧ counted ≤ maxStateNodes ∧
        depth + fieldsHeight copied ≤ maxStateDepth := by
  induction entries generalizing nodes copied with
  | nil =>
    cases hok
    exact ⟨rfl, List.forall_mem_nil _, rfl, hnodes, hdepth⟩
  | cons entry entries ih =>
    simp only [copyEntries, bind_eq_ok, pure_eq_ok, Prod.mk.injEq] at hok
    obtain ⟨⟨c, n⟩, hc, ⟨cs, m⟩, hcs, rfl, rfl⟩ := hok
    obtain ⟨hshape, hn, hle, hd⟩ := h entry List.mem_cons_self _ _ _ _ _ hc
    obtain ⟨hkeys, hshapes, hm, hle', hd'⟩ :=
      ih (fun e he => h e (List.mem_cons_of_mem _ he)) hle hcs
    simp only [fieldsCount, fieldsHeight, List.map_cons, hkeys]
    exact ⟨trivial, List.forall_mem_cons.mpr ⟨hshape, hshapes⟩, by omega, hle', by omega⟩

theorem copies_leaf {value : Json}
    (h : value.shaped Json.increasing stateNumber objectKey = true) (hheight : height value = 0)
    (hcount : nodeCount value = 1) {depth nodes : Nat} (hnodes : nodes + 1 ≤ maxStateNodes)
    (hdepth : depth ≤ maxStateDepth) : Copies depth nodes value (nodes + 1) := by
  refine ⟨h, ?_, hnodes, ?_⟩
  · rw [hcount]
  · rw [hheight]
    exact hdepth

theorem strictly_sorted {keys : List Str} (hsorted : keys.Pairwise (· ≤ ·)) (hdistinct : keys.Nodup) :
    keys.Pairwise (· < ·) :=
  hsorted.imp₂ (fun _ _ hle hne => lt_of_le_of_ne hle hne) hdistinct

theorem sorted_keys {fields : List (Str × Json)}
    (h : fields.Pairwise (fun a b => decide (a.1 ≠ b.1) = true)) :
    ((orderBy Prod.fst (copiers fields)).map Prod.fst).Pairwise (· < ·) := by
  apply strictly_sorted
  · exact List.pairwise_map.mpr (orderBy_pairwise _ _)
  · have hperm := (orderBy_perm Prod.fst (copiers fields)).map Prod.fst
    rw [hperm.nodup_iff, copiers_eq, List.map_map, List.Nodup, List.pairwise_map]
    exact h.imp fun hab => of_decide_eq_true hab

theorem copyState_sound {value : Json} (h : DistinctKeys value) : SoundCopier (copyState value) := by
  induction value using Json.inductOn with
  | null | bool b | str s =>
    intro path depth nodes copied counted hok
    simp only [copyState, bind_eq_ok, pure_eq_ok, countNode_eq_ok, Prod.mk.injEq] at hok
    obtain ⟨_, ⟨hnodes, hdepth, rfl⟩, rfl, rfl⟩ := hok
    apply copies_leaf rfl rfl rfl hnodes hdepth
  | num n =>
    intro path depth nodes copied counted hok
    simp only [copyState, bind_eq_ok, pure_eq_ok, countNode_eq_ok, Prod.mk.injEq] at hok
    obtain ⟨_, ⟨hnodes, hdepth, rfl⟩, c, hc, rfl, rfl⟩ := hok
    cases n with
    | float x => cases hc
    | int n =>
      simp only [copyNumber, bind_eq_ok, exists_unit, raiseIf_eq_ok, pure_eq_ok,
        Bool.not_eq_false] at hc
      obtain ⟨hn, rfl⟩ := hc
      apply copies_leaf _ rfl rfl hnodes hdepth
      exact hn
  | arr items ih =>
    intro path depth nodes copied counted hok
    simp only [copyState, bind_eq_ok, pure_eq_ok, countNode_eq_ok, Prod.mk.injEq] at hok
    obtain ⟨_, ⟨hnodes, hdepth, rfl⟩, ⟨cs, m⟩, hcs, rfl, rfl⟩ := hok
    obtain ⟨hshapes, hm, hle, hd⟩ := copyItems_sound
      (fun v hv => ih v hv (Json.shapedItems_iff.mp h v hv)) hdepth hnodes hcs
    exact ⟨Json.shapedItems_iff.mpr hshapes, by rw [hm, nodeCount, Nat.add_assoc], hle, hd⟩
  | obj fields ih =>
    intro path depth nodes copied counted hok
    simp only [copyState, bind_eq_ok, exists_unit, pure_eq_ok, countNode_eq_ok, Prod.mk.injEq,
      checkEach_eq_ok, raiseIf_eq_ok, Bool.not_eq_false] at hok
    obtain ⟨_, ⟨hnodes, hdepth, rfl⟩, hkey, ⟨cs, m⟩, hcs, rfl, rfl⟩ := hok
    obtain ⟨hdistinct, hfields⟩ := Json.shaped_obj.mp h
    have hentries : ∀ entry ∈ orderBy Prod.fst (copiers fields),
        SoundCopier entry.2 ∧ objectKey entry.1 = true := by
      intro entry hentry
      rw [mem_orderBy, copiers_eq, List.mem_map] at hentry
      obtain ⟨field, hf, rfl⟩ := hentry
      exact ⟨ih field hf (hfields field hf).2, hkey field hf⟩
    obtain ⟨hkeys, hshapes, hm, hle, hd⟩ :=
      copyEntries_sound (fun entry he => (hentries entry he).1) hdepth hnodes hcs
    refine ⟨Json.shaped_obj.mpr ⟨?_, ?_⟩, by rw [hm, nodeCount, Nat.add_assoc], hle, hd⟩
    · have hsorted := sorted_keys hdistinct
      rw [← hkeys, List.pairwise_map] at hsorted
      exact hsorted.imp fun hab => decide_eq_true hab
    · intro field hf
      have hmem : field.1 ∈ (orderBy Prod.fst (copiers fields)).map Prod.fst :=
        hkeys ▸ List.mem_map_of_mem hf
      obtain ⟨entry, he, heq⟩ := List.mem_map.mp hmem
      exact ⟨heq ▸ (hentries entry he).2, hshapes field hf⟩

theorem copyState_dict {fields : List (Str × Json)} {path : Str} {depth nodes : Nat}
    {copied : Json × Nat} (h : copyState (.obj fields) path depth nodes = .ok copied) :
    ∃ fields', copied.1 = .obj fields' := by
  simp only [copyState, bind_eq_ok, exists_unit, pure_eq_ok] at h
  obtain ⟨_, -, -, copied', -, rfl⟩ := h
  exact ⟨_, rfl⟩

theorem canonicalProjectionState_eq_ok {value copied : Json} (hkeys : DistinctKeys value)
    (h : canonicalProjectionState value = .ok copied) : ∃ state : ProjectionState, copied = state.value := by
  simp only [canonicalProjectionState, bind_eq_ok, exists_unit, raiseIf_eq_ok, pure_eq_ok,
    ne_eq, not_not] at h
  obtain ⟨htype, ⟨c, n⟩, hcopy, hbytes, rfl⟩ := h
  have hform := Json.pyType_form value
  rw [htype] at hform
  obtain ⟨fields, rfl⟩ : ∃ fields, value = .obj fields := hform
  obtain ⟨fields', hc⟩ := copyState_dict hcopy
  obtain ⟨hshaped, hcount, hnodes, hdepth⟩ := copyState_sound hkeys _ _ _ _ _ hcopy
  obtain rfl : c = .obj fields' := hc
  exact ⟨⟨fields', hshaped, by omega, by omega, hbytes⟩, rfl⟩

end Soundness

end Projection

end TraceBackedMemory
