import TraceBackedMemory.Projection.Checkpoint
import TraceBackedMemory.Foundation.SortedKeys
import TraceBackedMemory.Outbox.Steps

namespace TraceBackedMemory

open Text Raising OrderBy

namespace Projection

variable {sha : Sha256}

section Execution

structure TypedEventView where
  eventType : Str
  targetVersion : Nat
  payload : Json

structure ReducerEvent (sha : Sha256) where
  sourceEvent : CanonicalEvent sha
  typedEvent : Option TypedEventView

inductive TransitionFault where
  | reducer (e : ProjectionError)
  | foreign

structure Reducer (sha : Sha256) where
  descriptor : ReducerDescriptor
  initialState : Except TransitionFault Json
  reduce : Json → ReducerEvent sha → Except TransitionFault Json

def wrapped {α : Type} (code message : String) :
    Except TransitionFault α → Except ProjectionError α
  | .ok a => .ok a
  | .error (.reducer e) => .error e
  | .error .foreign => .error ⟨.reducerExecution, lit code, lit message⟩

structure ReducerStepResult where
  state : Json
  stateSha256 : Str
  changed : Bool

variable (sha)

def initialReducerState (reducer : Reducer sha) : Except ProjectionError ReducerStepResult := do
  let value ← wrapped "TBM_REDUCER_INITIAL_STATE_FAILED" "reducer initial state failed"
    reducer.initialState
  let state ← canonicalProjectionState value
  return ⟨state, projectionStateSha256 sha reducer.descriptor state, true⟩

def invalidReducerEvent (message : String) : ProjectionError :=
  ⟨.reducer, lit "TBM_REDUCER_EVENT_INVALID", lit message⟩

def typedEventRequired : ProjectionError :=
  ⟨.reducer, lit "TBM_REDUCER_TYPED_EVENT_REQUIRED", lit "typed reducer input is missing"⟩

def checkTyped (descriptor : ReducerDescriptor) (event : ReducerEvent sha) :
    Except ProjectionError Unit :=
  if descriptor.envelopeOnly then
    raiseIf (event.typedEvent.isSome = true)
      (invalidReducerEvent "envelope-only reducers must not receive typed payloads")
  else
    raiseIf (event.typedEvent.isSome = false) typedEventRequired

-- A transition is a function here, so its second run and the comparison of the two digests
-- cannot differ from the first and are left out.
def executeReducerStep (reducer : Reducer sha) (state : Json) (event : ReducerEvent sha) :
    Except ProjectionError ReducerStepResult := do
  let before ← canonicalProjectionState state
  let beforeDigest := projectionStateSha256 sha reducer.descriptor before
  if reducer.descriptor.accepts event.sourceEvent.eventType = false then
    return ⟨before, beforeDigest, false⟩
  else
    checkTyped sha reducer.descriptor event
    let value ← wrapped "TBM_REDUCER_TRANSITION_FAILED" "reducer transition failed"
      (reducer.reduce before event)
    let after ← canonicalProjectionState value
    let digest := projectionStateSha256 sha reducer.descriptor after
    return ⟨after, digest, decide (digest ≠ beforeDigest)⟩

def advance (reducer : Reducer sha) (state : Json) (event : ReducerEvent sha) :
    Except ProjectionError Json := do
  let result ← executeReducerStep sha reducer state event
  return result.state

def foldReducer (reducer : Reducer sha) (events : List (ReducerEvent sha)) :
    Except ProjectionError Json := do
  let initial ← initialReducerState sha reducer
  accumulate (advance sha reducer) initial.state events

end Execution

section Steps

variable {reducer : Reducer sha} {state : Json} {event : ReducerEvent sha}

theorem wrapped_eq_ok {α : Type} {code message : String} {x : Except TransitionFault α} {a : α} :
    wrapped code message x = .ok a ↔ x = .ok a := by
  cases x with
  | ok b => simp [wrapped]
  | error fault => cases fault <;> simp [wrapped]

theorem advance_refused (hfixed : canonicalProjectionState state = .ok state)
    (h : reducer.descriptor.accepts event.sourceEvent.eventType = false) :
    advance sha reducer state event = .ok state := by
  have hstep : executeReducerStep sha reducer state event =
      .ok ⟨state, projectionStateSha256 sha reducer.descriptor state, false⟩ := by
    rw [executeReducerStep, hfixed]
    exact if_pos h
  rw [advance, hstep]
  rfl

theorem advance_accepted (hfixed : canonicalProjectionState state = .ok state)
    (h : reducer.descriptor.accepts event.sourceEvent.eventType = true) :
    advance sha reducer state event = (do
      checkTyped sha reducer.descriptor event
      let value ← wrapped "TBM_REDUCER_TRANSITION_FAILED" "reducer transition failed"
        (reducer.reduce state event)
      canonicalProjectionState value) := by
  have hnot : ¬reducer.descriptor.accepts event.sourceEvent.eventType = false := by
    rw [h]
    exact Bool.noConfusion
  rw [advance, executeReducerStep, hfixed]
  show ((if _ then _ else _) >>= _) = _
  rw [if_neg hnot]
  cases checkTyped sha reducer.descriptor event with
  | error e => rfl
  | ok u =>
    cases wrapped "TBM_REDUCER_TRANSITION_FAILED" "reducer transition failed"
        (reducer.reduce state event) with
    | error e => rfl
    | ok value =>
      simp only [bind, Except.bind]
      cases canonicalProjectionState value with
      | error e => rfl
      | ok after => rfl

end Steps

section SortedCopies

def Sorts (value : Json) : Prop :=
  ∀ path depth nodes copied counted, copyState value path depth nodes = .ok (copied, counted) →
    copied = value.sortKeys

theorem copyItems_sorts {items : List Json} (h : ∀ v ∈ items, Sorts v) {path : Str}
    {depth index nodes counted : Nat} {copied : List Json}
    (hok : copyItems path depth index items nodes = .ok (copied, counted)) :
    copied = Json.sortItems items := by
  induction items generalizing index nodes copied with
  | nil =>
    cases hok
    rfl
  | cons v items ih =>
    simp only [copyItems, bind_eq_ok, pure_eq_ok, Prod.mk.injEq] at hok
    obtain ⟨⟨c, n⟩, hc, ⟨cs, m⟩, hcs, rfl, rfl⟩ := hok
    obtain rfl := h v List.mem_cons_self _ _ _ _ _ hc
    rw [Json.sortItems, ← ih (fun w hw => h w (List.mem_cons_of_mem _ hw)) hcs]

theorem copyEntries_sorts {fields : List (Str × Json)} (h : ∀ field ∈ fields, Sorts field.2)
    {path : Str} {depth nodes counted : Nat} {copied : List (Str × Json)}
    (hok : copyEntries path depth (copiers fields) nodes = .ok (copied, counted)) :
    copied = Json.sortFields fields := by
  induction fields generalizing nodes copied with
  | nil =>
    cases hok
    rfl
  | cons field fields ih =>
    simp only [copiers, copyEntries, bind_eq_ok, pure_eq_ok, Prod.mk.injEq] at hok
    obtain ⟨⟨c, n⟩, hc, ⟨cs, m⟩, hcs, rfl, rfl⟩ := hok
    obtain rfl := h field List.mem_cons_self _ _ _ _ _ hc
    rw [Json.sortFields, ← ih (fun f hf => h f (List.mem_cons_of_mem _ hf)) hcs]

theorem orderBy_copiers_eq (fields : List (Str × Json)) :
    orderBy Prod.fst (copiers fields) = copiers (orderBy Prod.fst fields) := by
  rw [copiers_eq, copiers_eq]
  exact Json.orderBy_map (fun _ => rfl) fields

theorem orderBy_sortFields_eq (fields : List (Str × Json)) :
    orderBy Prod.fst (Json.sortFields fields) = Json.sortFields (orderBy Prod.fst fields) := by
  rw [Json.sortFields_eq, Json.sortFields_eq]
  exact Json.orderBy_map (fun _ => rfl) fields

theorem copyState_sorts (value : Json) : Sorts value := by
  induction value using Json.inductOn with
  | null | bool b | str s =>
    intro path depth nodes copied counted hok
    simp only [copyState, bind_eq_ok, pure_eq_ok, Prod.mk.injEq] at hok
    obtain ⟨_, -, rfl, rfl⟩ := hok
    rfl
  | num n =>
    intro path depth nodes copied counted hok
    simp only [copyState, bind_eq_ok, pure_eq_ok, Prod.mk.injEq] at hok
    obtain ⟨_, -, c, hc, rfl, rfl⟩ := hok
    cases n with
    | float x => cases hc
    | int n =>
      simp only [copyNumber, bind_eq_ok, exists_unit, pure_eq_ok] at hc
      exact hc.2.symm
  | arr items ih =>
    intro path depth nodes copied counted hok
    simp only [copyState, bind_eq_ok, pure_eq_ok, Prod.mk.injEq] at hok
    obtain ⟨_, -, ⟨cs, m⟩, hcs, rfl, rfl⟩ := hok
    rw [Json.sortKeys, ← copyItems_sorts ih hcs]
  | obj fields ih =>
    intro path depth nodes copied counted hok
    simp only [copyState, bind_eq_ok, exists_unit, pure_eq_ok, Prod.mk.injEq,
      orderBy_copiers_eq] at hok
    obtain ⟨_, -, -, ⟨cs, m⟩, hcs, rfl, rfl⟩ := hok
    rw [Json.sortKeys, orderBy_sortFields_eq,
      ← copyEntries_sorts (fun field hf => ih field (mem_orderBy.mp hf)) hcs]

theorem canonicalProjectionState_sorts {value copied : Json}
    (h : canonicalProjectionState value = .ok copied) : copied = value.sortKeys := by
  simp only [canonicalProjectionState, bind_eq_ok, exists_unit, pure_eq_ok] at h
  obtain ⟨-, ⟨c, n⟩, hcopy, -, rfl⟩ := h
  exact copyState_sorts value _ _ _ _ _ hcopy

end SortedCopies

section Limits

def OnlyLimits {α : Type} (x : Except ProjectionError α) : Prop :=
  Raises (fun e => ∃ message, e = stateLimitExceeded message) x

theorem onlyLimits_of_ok {α : Type} {x : Except ProjectionError α} {a : α} (h : x = .ok a) :
    OnlyLimits x := by
  subst h
  exact raises_ok a

theorem onlyLimits_countNode (depth nodes : Nat) : OnlyLimits (countNode depth nodes) :=
  (raises_raiseIf ⟨_, rfl⟩).bind fun _ => raises_pure _

def LimitedCopy (value : Json) : Prop :=
  ∀ path depth nodes, OnlyLimits (copyState value path depth nodes)

theorem copyItems_limited {items : List Json} (h : ∀ v ∈ items, LimitedCopy v) {path : Str}
    {depth index nodes : Nat} : OnlyLimits (copyItems path depth index items nodes) := by
  induction items generalizing index nodes with
  | nil => exact raises_ok _
  | cons v items ih =>
    rw [copyItems]
    refine (h v List.mem_cons_self _ _ _).bind fun value => ?_
    exact (ih fun w hw => h w (List.mem_cons_of_mem _ hw)).bind fun _ => raises_pure _

theorem copyEntries_limited {fields : List (Str × Json)} (h : ∀ field ∈ fields, LimitedCopy field.2)
    {path : Str} {depth nodes : Nat} : OnlyLimits (copyEntries path depth (copiers fields) nodes) := by
  induction fields generalizing nodes with
  | nil => exact raises_ok _
  | cons field fields ih =>
    rw [copiers, copyEntries]
    refine (h field List.mem_cons_self _ _ _).bind fun value => ?_
    exact (ih fun f hf => h f (List.mem_cons_of_mem _ hf)).bind fun _ => raises_pure _

theorem copyState_limited {value : Json}
    (h : value.shaped Json.distinct stateNumber objectKey = true) : LimitedCopy value := by
  induction value using Json.inductOn with
  | null | bool b | str s =>
    intro path depth nodes
    rw [copyState]
    exact (onlyLimits_countNode depth nodes).bind fun _ => raises_pure _
    all_goals
      intros
      contradiction
  | num n =>
    intro path depth nodes
    rw [copyState]
    refine (onlyLimits_countNode depth nodes).bind fun _ => ?_
    cases n with
    | float x => cases h
    | int n =>
      have hn : ¬signed64 n = false := fun hfalse => Bool.noConfusion (hfalse.symm.trans h)
      rw [copyNumber, raiseIf_of_not hn]
      exact raises_ok _
  | arr items ih =>
    intro path depth nodes
    rw [copyState]
    refine (onlyLimits_countNode depth nodes).bind fun _ => ?_
    have hitems := Json.shapedItems_iff.mp h
    exact (copyItems_limited fun v hv => ih v hv (hitems v hv)).bind fun _ => raises_pure _
  | obj fields ih =>
    intro path depth nodes
    obtain ⟨-, hfields⟩ := Json.shaped_obj.mp h
    have hkeys : checkEach (fun field => raiseIf (objectKey field.1 = false)
        (invalidState (path ++ lit " contains an invalid object key"))) fields = .ok () :=
      checkEach_eq_ok.mpr fun field hf => raiseIf_of_not (by simp [(hfields field hf).1])
    rw [copyState, orderBy_copiers_eq]
    refine (onlyLimits_countNode depth nodes).bind fun _ => ?_
    refine (onlyLimits_of_ok hkeys).bind fun _ => ?_
    refine Raises.bind (copyEntries_limited fun field hf => ?_) fun _ => raises_pure _
    have hmem := mem_orderBy.mp hf
    exact ih field hmem (hfields field hmem).2

end Limits

section Encodings

def Clean (s : Str) : Prop := ∀ c ∈ s, isSurrogate c = false

theorem encodedBytes_isSome {s : Str} : (encodedBytes s).isSome = true ↔ Clean s := by
  rw [encodedBytes]
  cases h : s.any isSurrogate with
  | true =>
    obtain ⟨c, hc, hs⟩ := List.any_eq_true.mp h
    simp only [if_true, Option.isSome_none, Bool.false_eq_true, false_iff]
    exact fun hclean => Bool.noConfusion (hs.symm.trans (hclean c hc))
  | false =>
    simp only [Bool.false_eq_true, if_false, Option.isSome_some, true_iff]
    intro c hc
    rw [Bool.eq_false_iff]
    exact fun hs => Bool.noConfusion (h.symm.trans (List.any_eq_true.mpr ⟨c, hc, hs⟩))

theorem clean_append {s t : Str} : Clean (s ++ t) ↔ Clean s ∧ Clean t := List.forall_mem_append

theorem clean_cons {c : CodePoint} {s : Str} :
    Clean (c :: s) ↔ isSurrogate c = false ∧ Clean s := List.forall_mem_cons

theorem clean_hexDigit (n : Nat) : isSurrogate (hexDigit (n % 16)) = false := by
  have h : ∀ m < 16, isSurrogate (hexDigit m) = false := by decide
  exact h _ (Nat.mod_lt _ (by omega))

theorem clean_escapeControl {c : CodePoint} (h : isSurrogate c = false) : Clean (escapeControl c) := by
  have hshort : ∀ e, shortEscape? c = some e → isSurrogate e = false := by
    intro e he
    unfold shortEscape? at he
    repeat' split at he
    all_goals cases he
    all_goals rfl
  rcases escapeControl_cases c with ⟨e, he, hc⟩ | ⟨-, hc⟩ | ⟨-, -, hc⟩ <;> rw [hc]
  · exact clean_cons.mpr ⟨rfl, clean_cons.mpr ⟨hshort e he, List.forall_mem_nil _⟩⟩
  · simp only [unicodeEscape, clean_cons, clean_hexDigit, true_and]
    exact ⟨rfl, rfl, List.forall_mem_nil _⟩
  · exact clean_cons.mpr ⟨h, List.forall_mem_nil _⟩

theorem clean_quoted {s : Str} (h : Clean s) : Clean (quoted s) := by
  refine clean_cons.mpr ⟨rfl, clean_append.mpr ⟨?_, clean_cons.mpr ⟨rfl, List.forall_mem_nil _⟩⟩⟩
  intro c hc
  obtain ⟨d, hd, hcd⟩ := List.mem_flatMap.mp hc
  exact clean_escapeControl (h d hd) c hcd

theorem clean_decimalInt (n : Int) : Clean (decimalInt n) := by
  have hdecimal (k : Nat) : Clean (decimal k) := by
    intro c hc
    have hnum := isNumeral_of_mem_decimal hc
    rw [isNumeral, decide_eq_true_eq] at hnum
    rw [isSurrogate, decide_eq_false_iff_not]
    omega
  unfold decimalInt
  split
  · exact clean_append.mpr ⟨clean_cons.mpr ⟨rfl, List.forall_mem_nil _⟩, hdecimal _⟩
  · exact hdecimal _

theorem clean_joinComma {l : List Str} (h : ∀ s ∈ l, Clean s) : Clean (joinComma l) := by
  cases l with
  | nil => exact List.forall_mem_nil _
  | cons t l =>
    refine clean_append.mpr ⟨h t List.mem_cons_self, ?_⟩
    intro c hc
    obtain ⟨s, hs, hcs⟩ := List.mem_flatMap.mp hc
    rcases List.mem_cons.mp hcs with rfl | hcs
    · rfl
    · exact h s (List.mem_cons_of_mem _ hs) c hcs

theorem encodableItems_iff {items : List Json} :
    encodableItems items = true ↔ ∀ v ∈ items, encodable v = true := by
  induction items with
  | nil => simp [encodableItems]
  | cons v items ih => simp [encodableItems, ih]

theorem clean_stateText {order : Str → Str → Bool} {key : Str → Bool} {value : Json}
    (h : value.shaped order stateNumber key = true) (hcodes : encodable value = true) :
    Clean (stateText value) := by
  unfold stateText
  induction value using Json.inductOn with
  | null => exact encodedBytes_isSome.mp rfl
  | bool b => cases b <;> exact encodedBytes_isSome.mp rfl
  | num n =>
    cases n with
    | int n => exact clean_decimalInt n
    | float x => cases h
  | str s => exact clean_quoted (encodedBytes_isSome.mp hcodes)
  | arr items ih =>
    have hitems := Json.shapedItems_iff.mp h
    have hcode := encodableItems_iff.mp hcodes
    refine clean_cons.mpr ⟨rfl, clean_append.mpr ⟨clean_joinComma ?_, clean_cons.mpr ⟨rfl, List.forall_mem_nil _⟩⟩⟩
    intro s hs
    rw [Json.itemTexts_eq] at hs
    obtain ⟨v, hv, rfl⟩ := List.mem_map.mp hs
    exact ih v hv (hitems v hv) (hcode v hv)
  | obj fields ih =>
    obtain ⟨-, hfields⟩ := Json.shaped_obj.mp h
    have hcode := Outbox.encodableFields_iff.mp hcodes
    refine clean_cons.mpr ⟨rfl, clean_append.mpr ⟨clean_joinComma ?_, clean_cons.mpr ⟨rfl, List.forall_mem_nil _⟩⟩⟩
    intro s hs
    obtain ⟨text, htext, rfl⟩ := List.mem_map.mp hs
    rw [mem_orderBy, Json.fieldTexts_eq] at htext
    obtain ⟨field, hf, rfl⟩ := List.mem_map.mp htext
    obtain ⟨hkey, hvalue⟩ := hcode field hf
    exact clean_append.mpr ⟨clean_quoted (encodedBytes_isSome.mp hkey),
      clean_cons.mpr ⟨rfl, ih field hf (hfields field hf).2 hvalue⟩⟩

end Encodings

section Storable

theorem encodable_sortKeys {value : Json} (h : encodable value = true) :
    encodable value.sortKeys = true := by
  induction value using Json.inductOn with
  | null | bool b | num n | str s => exact h
  | arr items ih =>
    have hcode := encodableItems_iff.mp h
    rw [Json.sortKeys, Json.sortItems_eq]
    refine encodableItems_iff.mpr (List.forall_mem_map.mpr ?_)
    exact fun v hv => ih v hv (hcode v hv)
  | obj fields ih =>
    have hcode := Outbox.encodableFields_iff.mp h
    rw [Json.sortKeys, Json.sortFields_eq]
    refine Outbox.encodableFields_iff.mpr ?_
    intro field hf
    obtain ⟨original, ho, rfl⟩ := List.mem_map.mp (mem_orderBy.mp hf)
    obtain ⟨hkey, hvalue⟩ := hcode original ho
    exact ⟨hkey, ih original ho hvalue⟩

structure Storable (value : Json) : Prop where
  root : value.pyType = .dict
  shaped : value.shaped Json.distinct stateNumber objectKey = true
  encodes : encodable value = true

theorem Storable.distinctKeys {value : Json} (h : Storable value) : DistinctKeys value :=
  Json.shaped_imp (fun _ _ => id) (fun _ _ => rfl) (fun _ _ => rfl) value h.shaped

theorem Storable.onlyLimits {value : Json} (h : Storable value) :
    OnlyLimits (canonicalProjectionState value) := by
  intro e he
  rw [canonicalProjectionState, raiseIf_of_not (not_not.mpr h.root)] at he
  replace he := bind_eq_error.mp he
  rcases he with he | ⟨_, -, he⟩
  · cases he
  rcases bind_eq_error.mp he with he | ⟨⟨copied, counted⟩, hcopy, he⟩
  · exact copyState_limited h.shaped _ _ _ e he
  have hshaped := (copyState_sound h.distinctKeys _ _ _ _ _ hcopy).shaped
  have hencodes : encodable copied = true := by
    rw [copyState_sorts value _ _ _ _ _ hcopy]
    exact encodable_sortKeys h.encodes
  obtain ⟨n, hn⟩ := Option.isSome_iff_exists.mp
    (encodedBytes_isSome.mpr (clean_stateText hshaped hencodes))
  rw [checkEncoding, hn] at he
  rcases bind_eq_error.mp he with he | ⟨_, -, he⟩
  · exact (raises_raiseIf ⟨_, rfl⟩ : OnlyLimits _) e he
  · cases he

theorem Storable.copied {value copied : Json} (h : Storable value)
    (hok : canonicalProjectionState value = .ok copied) :
    Storable copied ∧ StateShaped copied ∧ canonicalProjectionState copied = .ok copied := by
  obtain ⟨state, rfl⟩ := canonicalProjectionState_eq_ok h.distinctKeys hok
  refine ⟨⟨rfl, ?_, ?_⟩, state.shaped, state.canonical⟩
  · exact Json.shaped_imp (fun _ _ => Json.distinct_of_increasing) (fun _ => id) (fun _ => id) _
      state.shaped
  · rw [canonicalProjectionState_sorts hok]
    exact encodable_sortKeys h.encodes

end Storable

end Projection

end TraceBackedMemory
