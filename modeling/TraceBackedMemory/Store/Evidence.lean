import TraceBackedMemory.Foundation.JsonEquality
import TraceBackedMemory.Foundation.KeyedMerge
import TraceBackedMemory.Store.Effects

namespace TraceBackedMemory

open Text Raising

section Equality

def areMappings (l : List JsonObject) : Prop := ∀ o ∈ l, (Json.obj o).isMapping = true

def CompletionValue.Mapped : CompletionValue → Prop
  | .toolOutputs l => areMappings l
  | _ => True

-- the JSON evidence of the trace is built of dictionaries, none of which has one key twice
structure Trace.Mapped (t : Trace) : Prop where
  retrieved_context : areMappings t.retrievedContext
  tool_calls : areMappings t.toolCalls
  tool_outputs : areMappings t.toolOutputs

theorem numberEq_symm {a b : Option Number} (h : numberEq a b = true) : numberEq b a = true := by
  cases a <;> cases b <;> simp only [numberEq, Bool.false_eq_true] at h ⊢
  exact Number.eq_symm h

theorem numberEq_trans {a b c : Option Number} (hab : numberEq a b = true)
    (hbc : numberEq b c = true) : numberEq a c = true := by
  cases a <;> cases b <;> cases c <;> simp only [numberEq, Bool.false_eq_true] at hab hbc ⊢
  exact Number.eq_trans hab hbc

theorem jsonObjectsEq_iff {a b : List JsonObject} : jsonObjectsEq a b = true ↔
    List.Forall₂ (fun o p => (Json.obj o).pyEq (.obj p) = true) a b := by
  rw [jsonObjectsEq, Json.pyEqItems_iff, List.forall₂_map_left_iff, List.forall₂_map_right_iff]

theorem jsonObjectsEq_symm {a b : List JsonObject} (ha : areMappings a)
    (h : jsonObjectsEq a b = true) : jsonObjectsEq b a = true := by
  rw [jsonObjectsEq_iff, List.forall₂_iff_get] at h ⊢
  refine ⟨h.1.symm, ?_⟩
  intro i hb hi
  exact Json.pyEq_symm (ha _ (List.get_mem a ⟨i, hi⟩)) (h.2 i hi hb)

theorem jsonObjectsEq_trans {a b c : List JsonObject} (hab : jsonObjectsEq a b = true)
    (hbc : jsonObjectsEq b c = true) : jsonObjectsEq a c = true := by
  rw [jsonObjectsEq_iff, List.forall₂_iff_get] at hab hbc ⊢
  refine ⟨hab.1.trans hbc.1, ?_⟩
  intro i ha hc
  have hb : i < b.length := hab.1 ▸ ha
  exact Json.pyEq_trans (hab.2 i ha hb) (hbc.2 i hb hc)

theorem CompletionValue.pyEq_symm {v w : CompletionValue} (hv : v.Mapped) (h : v.pyEq w = true) :
    w.pyEq v = true := by
  cases v <;> cases w <;> simp only [CompletionValue.pyEq, Bool.false_eq_true, decide_eq_true_eq] at h ⊢
  case toolOutputs a b => exact jsonObjectsEq_symm hv h
  case costUsd a b => exact numberEq_symm h
  all_goals exact h.symm

theorem CompletionValue.pyEq_trans {u v w : CompletionValue} (huv : u.pyEq v = true)
    (hvw : v.pyEq w = true) : u.pyEq w = true := by
  cases u <;> cases v <;> simp only [CompletionValue.pyEq, Bool.false_eq_true] at huv <;>
    cases w <;> simp only [CompletionValue.pyEq, Bool.false_eq_true, decide_eq_true_eq] at huv hvw ⊢
  case toolOutputs a b c => exact jsonObjectsEq_trans huv hvw
  case costUsd a b c => exact numberEq_trans huv hvw
  all_goals exact huv.trans hvw

end Equality

section Slots

theorem field_slot (t : Trace) (f : CompletionField) : (t.slot f).field = f := by
  cases f <;> rfl

theorem slot_write (t : Trace) (v : CompletionValue) (f : CompletionField) :
    (t.write v).slot f = if v.field = f then v else t.slot f := by
  cases v <;> cases f <;> rfl

theorem evalResult_write (t : Trace) (v : CompletionValue) :
    (t.write v).evalResult = t.evalResult := by
  cases v <;> rfl

theorem slot_foldl_write {values : List CompletionValue} {f : CompletionField} (t : Trace)
    (h : f ∉ values.map CompletionValue.field) :
    (values.foldl Trace.write t).slot f = t.slot f := by
  induction values generalizing t with
  | nil => rfl
  | cons v values ih =>
    simp only [List.map_cons, List.mem_cons, not_or] at h
    rw [List.foldl_cons, ih _ h.2, slot_write, if_neg (Ne.symm h.1)]

variable {t : Trace} {r : EvalResult} {values : List CompletionValue}

theorem evalResult_completionCandidate : (completionCandidate t r values).evalResult = r := by
  have hfold : ∀ (values : List CompletionValue) (u : Trace),
      (values.foldl Trace.write u).evalResult = u.evalResult := by
    intro values
    induction values with
    | nil => exact fun u => rfl
    | cons v values ih => exact fun u => (ih (u.write v)).trans (evalResult_write u v)
  exact hfold values _

theorem slot_candidate_of_not_mem {f : CompletionField}
    (h : f ∉ values.map CompletionValue.field) :
    (completionCandidate t r values).slot f = t.slot f := by
  rw [completionCandidate, slot_foldl_write _ h]
  cases f <;> rfl

theorem slot_candidate_of_mem (hn : (values.map CompletionValue.field).Nodup)
    {v : CompletionValue} (hv : v ∈ values) :
    (completionCandidate t r values).slot v.field = v := by
  have hfold : ∀ (u : Trace), (values.foldl Trace.write u).slot v.field = v := by
    induction values with
    | nil => cases hv
    | cons w values ih =>
      intro u
      obtain ⟨hw, hn⟩ := List.nodup_cons.mp hn
      rw [List.foldl_cons]
      rcases List.mem_cons.mp hv with rfl | hv
      · rw [slot_foldl_write _ hw, slot_write, if_pos rfl]
      · exact ih hn hv _
  exact hfold _

theorem Trace.ext_slots {t u : Trace} (hi : t.identity = u.identity)
    (hr : t.evalResult = u.evalResult) (hs : ∀ f, t.slot f = u.slot f) : t = u := by
  have houtput := hs .outputHash
  have htool := hs .toolOutputs
  have hlatency := hs .latencyMs
  have hcost := hs .costUsd
  have herror := hs .error
  have huri := hs .traceUri
  cases t
  cases u
  simp_all [Trace.identity, Trace.slot]

end Slots

section Validation

variable {py : Python} {t u : Trace}

theorem shaped_of_validated {v : Json} {path : Str} {depth : Nat} {b b' : TraceJsonBudget}
    (hm : v.isMapping = true) (h : validateJsonValue py path depth b v = .ok b') :
    v.shaped Json.distinct Number.isFinite (fun _ => true) = true := by
  induction v using Json.inductOn generalizing path depth b b' with
  | null | bool x | str s => rfl
  | num n =>
    cases n with
    | int n => rfl
    | float x =>
      simp only [validateJsonValue, bind_eq_ok, exists_unit, raiseIf_eq_ok] at h
      obtain ⟨_, _, hfinite, _⟩ := h
      simpa [Json.shaped, Number.isFinite] using hfinite
  | arr items ih =>
    simp only [validateJsonValue, bind_eq_ok, exists_unit] at h
    obtain ⟨_, _, _, _, h⟩ := h
    have hitems := Json.shapedItems_iff.mp hm
    refine Json.shapedItems_iff.mpr ?_
    have hrest : ∀ (l : List Json) (index : Nat) (b b' : TraceJsonBudget), l ⊆ items →
        validateJsonItems py path depth index b l = .ok b' →
        ∀ v ∈ l, v.shaped Json.distinct Number.isFinite (fun _ => true) = true := by
      intro l
      induction l with
      | nil => simp
      | cons v l ihl =>
        intro index b b' hsub h
        simp only [validateJsonItems, bind_eq_ok] at h
        obtain ⟨c, hv, hl⟩ := h
        obtain ⟨hmem, hsub⟩ := List.cons_subset.mp hsub
        exact List.forall_mem_cons.mpr ⟨ih v hmem (hitems v hmem) hv, ihl _ _ _ hsub hl⟩
    exact hrest items _ _ _ (List.Subset.refl _) h
  | obj fields ih =>
    simp only [validateJsonValue, bind_eq_ok, exists_unit] at h
    obtain ⟨_, _, _, _, _, _, h⟩ := h
    obtain ⟨hdistinct, hfields⟩ := Json.shaped_obj.mp hm
    refine Json.shaped_obj.mpr ⟨hdistinct, ?_⟩
    have hrest : ∀ (l : List (Str × Json)) (b b' : TraceJsonBudget), l ⊆ fields →
        validateJsonFields py path depth b l = .ok b' → ∀ field ∈ l, true = true ∧
        field.2.shaped Json.distinct Number.isFinite (fun _ => true) = true := by
      intro l
      induction l with
      | nil => simp
      | cons field l ihl =>
        intro b b' hsub h
        simp only [validateJsonFields, bind_eq_ok] at h
        obtain ⟨c, hv, hl⟩ := h
        obtain ⟨hmem, hsub⟩ := List.cons_subset.mp hsub
        exact List.forall_mem_cons.mpr
          ⟨⟨rfl, ih field hmem (hfields field hmem).2 hv⟩, ihl _ _ hsub hl⟩
    exact hrest fields _ _ (List.Subset.refl _) h

theorem jsonObjectsEq_self {l : List JsonObject} {fieldName : Str} {b b' : TraceJsonBudget}
    (hm : areMappings l) (h : validateJsonObjectList py l fieldName b = .ok b') :
    jsonObjectsEq l l = true := by
  simp only [validateJsonObjectList, bind_eq_ok, exists_unit] at h
  obtain ⟨c, _, _, h⟩ := h
  rw [jsonObjectsEq_iff, List.forall₂_same]
  have hrest : ∀ (m : List JsonObject) (index : Nat) (b b' : TraceJsonBudget), m ⊆ l →
      validateJsonObjects py fieldName index b m = .ok b' →
      ∀ o ∈ m, (Json.obj o).pyEq (.obj o) = true := by
    intro m
    induction m with
    | nil => simp
    | cons o m ih =>
      intro index b b' hsub h
      simp only [validateJsonObjects, bind_eq_ok] at h
      obtain ⟨c, ho, hm'⟩ := h
      obtain ⟨hmem, hsub⟩ := List.cons_subset.mp hsub
      exact List.forall_mem_cons.mpr
        ⟨Json.pyEq_refl (shaped_of_validated (hm o hmem) ho), ih _ _ _ hsub hm'⟩
  exact hrest l _ _ _ (List.Subset.refl _) h

theorem numberEq_self {cost : Option Number} (h : validateCost cost = .ok ()) :
    numberEq cost cost = true := by
  cases cost with
  | none => rfl
  | some n =>
    simp only [validateCost, seq_eq_ok, raiseIf_eq_ok] at h
    exact Number.eq_self (by simpa using h.1)

-- the trace equals itself under Python's comparison, field by field
structure Trace.Comparable (t : Trace) : Prop where
  retrieved_context : jsonObjectsEq t.retrievedContext t.retrievedContext = true
  tool_calls : jsonObjectsEq t.toolCalls t.toolCalls = true
  slots : ∀ f, (t.slot f).pyEq (t.slot f) = true

theorem comparable_of_valid (hm : t.Mapped) (h : validateTrace py t = .ok ()) : t.Comparable := by
  simp only [validateTrace, bind_eq_ok, exists_unit] at h
  obtain ⟨_, _, _, _, hcost, b, hretrieved, b', hcalls, b'', houtputs, _⟩ := h
  refine ⟨jsonObjectsEq_self hm.retrieved_context hretrieved,
    jsonObjectsEq_self hm.tool_calls hcalls, ?_⟩
  intro f
  cases f with
  | toolOutputs => exact jsonObjectsEq_self hm.tool_outputs houtputs
  | costUsd => exact numberEq_self hcost
  | _ => exact decide_eq_true rfl

theorem pyEq_of_slots (hi : t.identity = u.identity) (hc : t.Comparable) :
    t.pyEq u = true ↔ t.evalResult = u.evalResult ∧ ∀ f, (t.slot f).pyEq (u.slot f) = true := by
  have hidentity := hi
  simp only [Trace.identity, Trace.mk.injEq] at hidentity
  have hretrieved : t.retrievedContext = u.retrievedContext := by tauto
  have hcalls : t.toolCalls = u.toolCalls := by tauto
  have hr := hc.retrieved_context
  have hk := hc.tool_calls
  rw [hretrieved] at hr
  rw [hcalls] at hk
  have hslots : (∀ f, (t.slot f).pyEq (u.slot f) = true) ↔
      t.outputHash = u.outputHash ∧ jsonObjectsEq t.toolOutputs u.toolOutputs = true ∧
        t.latencyMs = u.latencyMs ∧ numberEq t.costUsd u.costUsd = true ∧ t.error = u.error ∧
        t.traceUri = u.traceUri := by
    constructor
    · intro h
      exact ⟨of_decide_eq_true (h .outputHash), h .toolOutputs, of_decide_eq_true (h .latencyMs),
        h .costUsd, of_decide_eq_true (h .error), of_decide_eq_true (h .traceUri)⟩
    · rintro ⟨houtput, htool, hlatency, hcost, herror, huri⟩ f
      cases f with
      | outputHash => exact decide_eq_true houtput
      | toolOutputs => exact htool
      | latencyMs => exact decide_eq_true hlatency
      | costUsd => exact hcost
      | error => exact decide_eq_true herror
      | traceUri => exact decide_eq_true huri
  rw [hslots]
  simp only [Trace.pyEq, hretrieved, hcalls, hr, hk, Bool.and_eq_true, decide_eq_true_eq]
  tauto

structure JsonFits (py : Python) (retrieved calls outputs : List JsonObject) : Prop where
  budgets : ∃ b b' b'', validateJsonObjectList py retrieved (lit "retrieved_context") {} = .ok b ∧
    validateJsonObjectList py calls (lit "tool_calls") b = .ok b' ∧
    validateJsonObjectList py outputs (lit "tool_outputs") b' = .ok b''

theorem JsonFits.nil {retrieved calls outputs : List JsonObject}
    (h : JsonFits py retrieved calls outputs) : JsonFits py retrieved calls [] := by
  obtain ⟨b, b', b'', hretrieved, hcalls, houtputs⟩ := h.budgets
  simp only [validateJsonObjectList, bind_eq_ok, exists_unit] at houtputs
  obtain ⟨c, hc, _, _⟩ := houtputs
  refine ⟨b, b', c, hretrieved, hcalls, ?_⟩
  simp only [validateJsonObjectList, bind_eq_ok, exists_unit]
  exact ⟨c, hc, raiseIf_of_not (by simp), rfl⟩

theorem validateTrace_eq_ok : validateTrace py t = .ok () ↔
    (∀ f ∈ [(lit "trace_id", t.traceId), (lit "run_id", t.runId)], validateRequiredString f.2 f.1
      (lit "trace records require") (some memoryIdMaxChars) = .ok ()) ∧
    validateRequiredString t.commitSha (lit "commit_sha") (lit "trace records require")
      (some metadataValueMaxChars) = .ok () ∧
    (∀ f ∈ t.optionalFields, validateOptionalString f.2.1 f.1 (lit "trace") false f.2.2 = .ok ()) ∧
    validateLatency t.latencyMs = .ok () ∧ validateCost t.costUsd = .ok () ∧
    JsonFits py t.retrievedContext t.toolCalls t.toolOutputs ∧
    validateOptionalRfc3339 t.createdAt (lit "created_at") (lit "trace") = .ok () := by
  simp only [validateTrace, bind_eq_ok, exists_unit, checkEach_eq_ok]
  constructor
  · rintro ⟨hids, hcommit, hoptional, hlatency, hcost, b, hr, b', hc, b'', ho, hcreated⟩
    exact ⟨hids, hcommit, hoptional, hlatency, hcost, ⟨b, b', b'', hr, hc, ho⟩, hcreated⟩
  · rintro ⟨hids, hcommit, hoptional, hlatency, hcost, ⟨b, b', b'', hr, hc, ho⟩, hcreated⟩
    exact ⟨hids, hcommit, hoptional, hlatency, hcost, b, hr, b', hc, b'', ho, hcreated⟩

def SlotFits (py : Python) (t : Trace) : CompletionValue → Prop
  | .outputHash v => validateOptionalString v (lit "output_hash") (lit "trace") false
      (some metadataValueMaxChars) = .ok ()
  | .toolOutputs l => JsonFits py t.retrievedContext t.toolCalls l
  | .latencyMs v => validateLatency v = .ok ()
  | .costUsd v => validateCost v = .ok ()
  | .error v => validateOptionalString v (lit "error") (lit "trace") false none = .ok ()
  | .traceUri v => validateOptionalString v (lit "trace_uri") (lit "trace") false
      (some metadataValueMaxChars) = .ok ()

-- a trace is valid exactly when its bare record is and each slot of evidence is on its own
theorem validateTrace_slots : validateTrace py t = .ok () ↔
    validateTrace py t.identity = .ok () ∧ ∀ f, SlotFits py t.identity (t.slot f) := by
  constructor
  · intro h
    obtain ⟨hids, hcommit, hoptional, hlatency, hcost, hjson, hcreated⟩ := validateTrace_eq_ok.mp h
    simp only [Trace.optionalFields, List.forall_mem_cons] at hoptional
    refine ⟨validateTrace_eq_ok.mpr ⟨hids, hcommit, ?_, rfl, rfl, hjson.nil, hcreated⟩, ?_⟩
    · simp only [Trace.optionalFields, Trace.identity, List.forall_mem_cons]
      exact ⟨hoptional.1, hoptional.2.1, hoptional.2.2.1, hoptional.2.2.2.1, hoptional.2.2.2.2.1,
        hoptional.2.2.2.2.2.1, hoptional.2.2.2.2.2.2.1, hoptional.2.2.2.2.2.2.2.1,
        hoptional.2.2.2.2.2.2.2.2.1, rfl, rfl, rfl, by simp⟩
    · intro f
      cases f with
      | outputHash => exact hoptional.2.2.2.2.2.2.2.2.2.1
      | toolOutputs => exact hjson
      | latencyMs => exact hlatency
      | costUsd => exact hcost
      | error => exact hoptional.2.2.2.2.2.2.2.2.2.2.1
      | traceUri => exact hoptional.2.2.2.2.2.2.2.2.2.2.2.1
  · rintro ⟨h, hslots⟩
    obtain ⟨hids, hcommit, hoptional, _, _, _, hcreated⟩ := validateTrace_eq_ok.mp h
    refine validateTrace_eq_ok.mpr ⟨hids, hcommit, ?_, hslots .latencyMs, hslots .costUsd,
      hslots .toolOutputs, hcreated⟩
    simp only [Trace.optionalFields, Trace.identity, List.forall_mem_cons] at hoptional ⊢
    exact ⟨hoptional.1, hoptional.2.1, hoptional.2.2.1, hoptional.2.2.2.1, hoptional.2.2.2.2.1,
      hoptional.2.2.2.2.2.1, hoptional.2.2.2.2.2.2.1, hoptional.2.2.2.2.2.2.2.1,
      hoptional.2.2.2.2.2.2.2.2.1, hslots .outputHash, hslots .error, hslots .traceUri, by simp⟩

theorem validateTrace_of_slots
    (h : ∀ f, ∃ w, w.identity = t.identity ∧ validateTrace py w = .ok () ∧ w.slot f = t.slot f) :
    validateTrace py t = .ok () := by
  refine validateTrace_slots.mpr ⟨?_, fun f => ?_⟩
  · obtain ⟨w, hi, hw, _⟩ := h .error
    rw [← hi]
    exact (validateTrace_slots.mp hw).1
  · obtain ⟨w, hi, hw, hslot⟩ := h f
    rw [← hi, ← hslot]
    exact (validateTrace_slots.mp hw).2 f

end Validation

section Candidates

variable {py : Python} {t t' : Trace} {r : EvalResult} {values : List CompletionValue}

def Rewritable (t : Trace) (v : CompletionValue) : Prop :=
  (t.slot v.field).isUnset = true ∨ (t.slot v.field).pyEq v = true

theorem completedTraceCandidate_eq_ok (hn : (values.map CompletionValue.field).Nodup) :
    completedTraceCandidate py t r values = .ok t' ↔
      validateTrace py (completionCandidate t r values) = .ok () ∧
      ((t.evalResult.evaluated = true ∧ (completionCandidate t r values).pyEq t = true ∧ t' = t) ∨
        (t.evalResult.evaluated = false ∧ (∀ v ∈ values, Rewritable t v) ∧
          t' = completionCandidate t r values)) := by
  simp only [completedTraceCandidate, seq_eq_ok]
  refine and_congr Iff.rfl ?_
  cases hr : t.evalResult.evaluated with
  | true =>
    rw [if_pos rfl]
    split
    · rename_i hpy
      simp [hpy, pure_eq_ok, eq_comm (a := t)]
    · rename_i hpy
      simp [hpy]
  | false =>
    simp only [Bool.false_eq_true, if_false, false_and, false_or, true_and, seq_eq_ok,
      checkEach_eq_ok, raiseIf_eq_ok, pure_eq_ok]
    refine and_congr (forall₂_congr fun v hv => ?_) eq_comm
    rw [slot_candidate_of_mem hn hv, Rewritable, not_and_or]
    simp

theorem completionCandidate_idem (hn : (values.map CompletionValue.field).Nodup) :
    completionCandidate (completionCandidate t r values) r values =
      completionCandidate t r values := by
  apply Trace.ext_slots (identity_completionCandidate _ _ _)
  · rw [evalResult_completionCandidate, evalResult_completionCandidate]
  · intro f
    by_cases hf : f ∈ values.map CompletionValue.field
    · obtain ⟨v, hv, rfl⟩ := List.mem_map.mp hf
      rw [slot_candidate_of_mem hn hv, slot_candidate_of_mem hn hv]
    · rw [slot_candidate_of_not_mem hf]

theorem completionCandidate_perm {values' : List CompletionValue} (hp : values.Perm values')
    (hn : (values.map CompletionValue.field).Nodup) :
    completionCandidate t r values = completionCandidate t r values' := by
  have hn' := (hp.map CompletionValue.field).nodup_iff.mp hn
  apply Trace.ext_slots
  · rw [identity_completionCandidate, identity_completionCandidate]
  · rw [evalResult_completionCandidate, evalResult_completionCandidate]
  · intro f
    by_cases hf : f ∈ values.map CompletionValue.field
    · obtain ⟨v, hv, rfl⟩ := List.mem_map.mp hf
      rw [slot_candidate_of_mem hn hv, slot_candidate_of_mem hn' (hp.mem_iff.mp hv)]
    · rw [slot_candidate_of_not_mem hf, slot_candidate_of_not_mem]
      rwa [← (hp.map CompletionValue.field).mem_iff]

theorem completedTraceCandidate_perm {values' : List CompletionValue} (hp : values.Perm values')
    (hn : (values.map CompletionValue.field).Nodup) :
    completedTraceCandidate py t r values = .ok t' ↔
      completedTraceCandidate py t r values' = .ok t' := by
  have hn' := (hp.map CompletionValue.field).nodup_iff.mp hn
  rw [completedTraceCandidate_eq_ok hn, completedTraceCandidate_eq_ok hn',
    completionCandidate_perm hp hn]
  simp only [hp.mem_iff]

theorem nodup_provided (a : CompletionArguments) :
    (a.provided.map CompletionValue.field).Nodup := by
  obtain ⟨output, tool, latency, cost, error, uri⟩ := a
  cases output <;> cases tool <;> cases latency <;> cases cost <;> cases error <;> cases uri <;>
    simp [CompletionArguments.provided, CompletionValue.field]

def MemoryRunResult.arguments (r : MemoryRunResult) : CompletionArguments where
  outputHash := r.outputHash.map some
  toolOutputs := r.toolOutputs
  latencyMs := r.latencyMs.map some
  costUsd := r.costUsd.map some
  error := r.error.map some
  traceUri := r.traceUri.map some

theorem provided_arguments_perm (r : MemoryRunResult) :
    r.arguments.provided.Perm (memoryRunResultCompletionValues r) := by
  have hprovided : r.arguments.provided = (r.outputHash.map (fun v => .outputHash (some v))).toList ++
      ((r.toolOutputs.map .toolOutputs).toList ++
        ((r.latencyMs.map (fun v => .latencyMs (some v))).toList ++
          (r.costUsd.map (fun v => .costUsd (some v))).toList ++
          (r.error.map (fun v => .error (some v))).toList ++
          (r.traceUri.map (fun v => .traceUri (some v))).toList)) := by
    simp [CompletionArguments.provided, MemoryRunResult.arguments, Function.comp_def]
  have hvalues : memoryRunResultCompletionValues r =
      (r.outputHash.map (fun v => .outputHash (some v))).toList ++
      (((r.latencyMs.map (fun v => .latencyMs (some v))).toList ++
          (r.costUsd.map (fun v => .costUsd (some v))).toList ++
          (r.error.map (fun v => .error (some v))).toList ++
          (r.traceUri.map (fun v => .traceUri (some v))).toList) ++
        (r.toolOutputs.map .toolOutputs).toList) := by
    simp [memoryRunResultCompletionValues]
  rw [hprovided, hvalues]
  exact List.perm_append_comm.append_left _

theorem nodup_resultValues (r : MemoryRunResult) :
    ((memoryRunResultCompletionValues r).map CompletionValue.field).Nodup :=
  ((provided_arguments_perm r).map _).nodup_iff.mp (nodup_provided r.arguments)

end Candidates

end TraceBackedMemory
