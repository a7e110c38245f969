import TraceBackedMemory.Store.Evidence
import TraceBackedMemory.Store.Reachability

namespace TraceBackedMemory

open Text Raising KeyedMerge

variable {py : Python} {s : Store} {rows rows' : List CompletionRow} {row : CompletionRow}

section Rows

def Store.ownTrace (py : Python) (s : Store) (row : CompletionRow) : Except Exn Trace := do
  let current ← demand (s.traces.get? row.traceId) (.keyError row.traceId)
  completedTraceCandidate py current row.evalResult row.values

def Store.ownEvidence (py : Python) (s : Store) (row : CompletionRow) : List CompletionValue :=
  match s.ownTrace py row with
  | .ok t => row.values.map (fun v => t.slot v.field)
  | .error _ => []

def Store.evidenceFor (py : Python) (s : Store) (rows : List CompletionRow) (traceId : Str) :
    List CompletionValue :=
  (rows.filter (fun row => decide (row.traceId = traceId))).flatMap (s.ownEvidence py)

structure Store.Stageable (py : Python) (s : Store) (rows : List CompletionRow) : Prop where
  outcomes : ∀ row ∈ rows, ∀ row' ∈ rows, row.traceId = row'.traceId →
    row.evalResult = row'.evalResult
  candidates : ∀ row ∈ rows, ∃ t, s.ownTrace py row = .ok t
  evidence : ∀ k, Agree CompletionValue.field CompletionValue.pyEq (s.evidenceFor py rows k)

structure Store.Staged (py : Python) (s : Store) (rows : List CompletionRow)
    (staged : StagedTraces) : Prop where
  results : ∀ k r, staged.results.get? k = some r ↔
    ∃ row ∈ rows, row.traceId = k ∧ row.evalResult = r
  values : ∀ k, accumulate (mergeValue k) [] (s.evidenceFor py rows k) =
    .ok ((staged.values.get? k).getD [])

-- the dictionaries the caller hands over and those the traces hold have distinct keys
structure Store.Mapped (s : Store) (rows : List CompletionRow) : Prop where
  traces : ∀ row ∈ rows, ∀ t, s.traces.get? row.traceId = some t → t.Mapped
  values : ∀ row ∈ rows, ∀ v ∈ row.values, v.Mapped
  fields : ∀ row ∈ rows, (row.values.map CompletionValue.field).Nodup

theorem mergeValue_eq (k : Str) : mergeValue k = merge CompletionValue.field CompletionValue.pyEq
    (fun v => .valueError (lit "shared trace has conflicting completion evidence for " ++
      v.field.text ++ lit ": " ++ k)) := rfl

theorem stageRow_eq_ok {staged staged' : StagedTraces} :
    s.stageRow py staged row = .ok staged' ↔
      (∀ r, staged.results.get? row.traceId = some r → r = row.evalResult) ∧
      ∃ t, s.ownTrace py row = .ok t ∧
      ∃ merged, accumulate (mergeValue row.traceId) ((staged.values.get? row.traceId).getD [])
        (s.ownEvidence py row) = .ok merged ∧
      staged' = ⟨staged.results.set row.traceId row.evalResult,
        staged.values.set row.traceId merged⟩ := by
  simp only [Store.stageRow, Store.ownEvidence, bind_eq_ok, exists_unit, raiseIf_eq_ok, pure_eq_ok]
  constructor
  · rintro ⟨hresult, current, hcurrent, t, ht, merged, hmerged, rfl⟩
    have hown : s.ownTrace py row = .ok t := bind_eq_ok.mpr ⟨current, hcurrent, ht⟩
    refine ⟨by simpa using hresult, t, hown, merged, ?_, rfl⟩
    rw [hown]
    exact hmerged
  · rintro ⟨hresult, t, hown, merged, hmerged, rfl⟩
    obtain ⟨current, hcurrent, ht⟩ := bind_eq_ok.mp hown
    rw [hown] at hmerged
    exact ⟨by simpa using hresult, current, hcurrent, t, ht, merged, hmerged, rfl⟩

theorem evidenceFor_append (k : Str) : s.evidenceFor py (rows ++ [row]) k =
    s.evidenceFor py rows k ++ if row.traceId = k then s.ownEvidence py row else [] := by
  rw [Store.evidenceFor, List.filter_append, List.flatMap_append]
  by_cases h : row.traceId = k <;> simp [Store.evidenceFor, h]

theorem mem_evidenceFor {k : Str} {v : CompletionValue} : v ∈ s.evidenceFor py rows k ↔
    ∃ row ∈ rows, row.traceId = k ∧ v ∈ s.ownEvidence py row := by
  simp [Store.evidenceFor, and_assoc]

theorem staged_of_accumulate {staged : StagedTraces}
    (h : accumulate (s.stageRow py) {} rows = .ok staged) :
    s.Staged py rows staged ∧ (∀ row ∈ rows, ∃ t, s.ownTrace py row = .ok t) ∧
      ∀ row ∈ rows, ∀ row' ∈ rows, row.traceId = row'.traceId →
        row.evalResult = row'.evalResult := by
  induction rows using List.reverseRecOn generalizing staged with
  | nil =>
    cases h
    refine ⟨⟨fun k r => ?_, fun k => rfl⟩, by simp, by simp⟩
    simp
  | append_singleton rows row ih =>
    rw [accumulate_append, bind_eq_ok] at h
    obtain ⟨before, hbefore, h⟩ := h
    rw [accumulate, bind_eq_ok] at h
    obtain ⟨after, hafter, h⟩ := h
    cases h
    obtain ⟨hstaged, hown, houtcomes⟩ := ih hbefore
    obtain ⟨hresult, t, ht, merged, hmerged, rfl⟩ := stageRow_eq_ok.mp hafter
    have hsame : ∀ row' ∈ rows, row'.traceId = row.traceId → row'.evalResult = row.evalResult :=
      fun row' hrow' hk => hresult _ ((hstaged.results _ _).mpr ⟨row', hrow', hk, rfl⟩)
    refine ⟨⟨fun k r => ?_, fun k => ?_⟩, ?_, ?_⟩
    · rw [Dict.get?_set]
      by_cases hk : k = row.traceId
      · subst hk
        rw [if_pos rfl]
        constructor
        · rintro ⟨⟩
          exact ⟨row, by simp, rfl, rfl⟩
        · rintro ⟨row', hrow', hk, rfl⟩
          rcases List.mem_append.mp hrow' with hrow' | hrow'
          · rw [hsame row' hrow' hk]
          · rw [List.mem_singleton.mp hrow']
      · rw [if_neg hk, hstaged.results]
        constructor
        · rintro ⟨row', hrow', hk', hr⟩
          exact ⟨row', List.mem_append_left _ hrow', hk', hr⟩
        · rintro ⟨row', hrow', hk', hr⟩
          rcases List.mem_append.mp hrow' with hrow' | hrow'
          · exact ⟨row', hrow', hk', hr⟩
          · rw [List.mem_singleton.mp hrow'] at hk'
            exact absurd hk'.symm hk
    · rw [evidenceFor_append, accumulate_append, hstaged.values k, Dict.get?_set]
      by_cases hk : row.traceId = k
      · subst hk
        simp only [if_pos]
        exact hmerged
      · rw [if_neg hk, if_neg (Ne.symm hk)]
        rfl
    · intro row' hrow'
      rcases List.mem_append.mp hrow' with hrow' | hrow'
      · exact hown row' hrow'
      · rw [List.mem_singleton.mp hrow']
        exact ⟨t, ht⟩
    · intro a ha b hb hk
      rcases List.mem_append.mp ha with ha | ha <;> rcases List.mem_append.mp hb with hb | hb
      · exact houtcomes a ha b hb hk
      · rw [List.mem_singleton.mp hb] at hk ⊢
        exact hsame a ha hk
      · rw [List.mem_singleton.mp ha] at hk ⊢
        exact (hsame b hb hk.symm).symm
      · rw [List.mem_singleton.mp ha, List.mem_singleton.mp hb]

theorem exists_staged (h : s.Stageable py rows) :
    ∃ staged, accumulate (s.stageRow py) {} rows = .ok staged := by
  induction rows using List.reverseRecOn with
  | nil => exact ⟨{}, rfl⟩
  | append_singleton rows row ih =>
    have hbefore : s.Stageable py rows :=
      ⟨fun a ha b hb => h.outcomes a (List.mem_append_left _ ha) b (List.mem_append_left _ hb),
        fun a ha => h.candidates a (List.mem_append_left _ ha), fun k v hv w hw =>
          h.evidence k v (by rw [evidenceFor_append]; exact List.mem_append_left _ hv)
            w (by rw [evidenceFor_append]; exact List.mem_append_left _ hw)⟩
    obtain ⟨before, hbefore⟩ := ih hbefore
    obtain ⟨hstaged, _, _⟩ := staged_of_accumulate hbefore
    obtain ⟨t, ht⟩ := h.candidates row (by simp)
    have hmerge : ∃ merged, accumulate (mergeValue row.traceId) []
        (s.evidenceFor py (rows ++ [row]) row.traceId) = .ok merged := by
      rw [mergeValue_eq]
      exact exists_merge (h.evidence row.traceId)
    obtain ⟨merged, hmerged⟩ := hmerge
    rw [evidenceFor_append, if_pos rfl, accumulate_append, hstaged.values row.traceId] at hmerged
    refine ⟨⟨before.results.set row.traceId row.evalResult,
      before.values.set row.traceId merged⟩, ?_⟩
    rw [accumulate_append, hbefore]
    change accumulate (s.stageRow py) before [row] = .ok _
    refine bind_eq_ok.mpr ⟨_, stageRow_eq_ok.mpr ⟨fun r hr => ?_, t, ht, merged, hmerged, rfl⟩, rfl⟩
    obtain ⟨row', hrow', hk, rfl⟩ := (hstaged.results _ _).mp hr
    exact h.outcomes row' (List.mem_append_left _ hrow') row (by simp) hk

end Rows

section OwnTraces

structure OwnCompletion (py : Python) (row : CompletionRow) (current t : Trace) : Prop where
  identity : t.identity = current.identity
  valid : validateTrace py t = .ok ()
  comparable : t.Comparable
  mapped : ∀ f, (t.slot f).Mapped
  result : t.evalResult = row.evalResult
  provided : ∀ v ∈ row.values, v.pyEq (t.slot v.field) = true
  kept : ∀ f, f ∉ row.values.map CompletionValue.field → t.slot f = current.slot f
  sealed : current.evalResult.evaluated = true → t = current
  rewritable : current.evalResult.evaluated = false → ∀ v ∈ row.values, Rewritable current v
  written : current.evalResult.evaluated = false → ∀ v ∈ row.values, t.slot v.field = v

theorem mapped_slot {t : Trace} (h : t.Mapped) (f : CompletionField) : (t.slot f).Mapped := by
  cases f with
  | toolOutputs => exact h.tool_outputs
  | _ => trivial

theorem mapped_candidate {t : Trace} {r : EvalResult} {values : List CompletionValue}
    (h : t.Mapped) (hv : ∀ v ∈ values, v.Mapped) (hn : (values.map CompletionValue.field).Nodup) :
    (completionCandidate t r values).Mapped := by
  have hi := identity_completionCandidate t r values
  simp only [Trace.identity, Trace.mk.injEq] at hi
  have hretrieved : (completionCandidate t r values).retrievedContext = t.retrievedContext := by tauto
  have hcalls : (completionCandidate t r values).toolCalls = t.toolCalls := by tauto
  refine ⟨hretrieved ▸ h.retrieved_context, hcalls ▸ h.tool_calls, ?_⟩
  have hslot : ((completionCandidate t r values).slot .toolOutputs).Mapped := by
    by_cases hf : CompletionField.toolOutputs ∈ values.map CompletionValue.field
    · obtain ⟨v, hmem, hfield⟩ := List.mem_map.mp hf
      rw [← hfield, slot_candidate_of_mem hn hmem]
      exact hv v hmem
    · rw [slot_candidate_of_not_mem hf]
      exact mapped_slot h _
  exact hslot

theorem ownTrace_spec (h : Sound py s) (hm : s.Mapped rows) (hrow : row ∈ rows) {t : Trace}
    (ht : s.ownTrace py row = .ok t) :
    ∃ current, s.traces.get? row.traceId = some current ∧ OwnCompletion py row current t := by
  obtain ⟨current, hcurrent, ht⟩ := bind_eq_ok.mp ht
  rw [demand_eq_ok] at hcurrent
  have hn := hm.fields row hrow
  obtain ⟨hvalid, hcases⟩ := (completedTraceCandidate_eq_ok hn).mp ht
  have hcurrentValid := (h.records.traces_at _ _ hcurrent).2
  have hcurrentMapped := hm.traces row hrow _ hcurrent
  have hcandidateMapped := mapped_candidate (r := row.evalResult) hcurrentMapped
    (hm.values row hrow) hn
  have hcomparable := comparable_of_valid hcandidateMapped hvalid
  have hidentity := identity_completionCandidate current row.evalResult row.values
  refine ⟨current, hcurrent, ?_⟩
  rcases hcases with ⟨hsealed, hpy, rfl⟩ | ⟨hopen, hrewritable, rfl⟩
  · obtain ⟨hresult, hslots⟩ := (pyEq_of_slots hidentity hcomparable).mp hpy
    rw [evalResult_completionCandidate] at hresult
    refine ⟨rfl, hcurrentValid, comparable_of_valid hcurrentMapped hcurrentValid,
      mapped_slot hcurrentMapped, hresult.symm, fun v hv => ?_, fun f _ => rfl, fun _ => rfl,
      fun hopen => ?_, fun hopen => ?_⟩
    · have hslot := hslots v.field
      rwa [slot_candidate_of_mem hn hv] at hslot
    · rw [hsealed] at hopen
      cases hopen
    · rw [hsealed] at hopen
      cases hopen
  · refine ⟨hidentity, hvalid, hcomparable, mapped_slot hcandidateMapped,
      evalResult_completionCandidate, fun v hv => ?_, fun f hf => slot_candidate_of_not_mem hf,
      fun hsealed => ?_, fun _ => hrewritable, fun _ v hv => slot_candidate_of_mem hn hv⟩
    · have hself := hcomparable.slots v.field
      rw [slot_candidate_of_mem hn hv] at hself ⊢
      exact hself
    · rw [hopen] at hsealed
      cases hsealed

theorem mem_ownEvidence {t : Trace} (ht : s.ownTrace py row = .ok t) {v : CompletionValue} :
    v ∈ s.ownEvidence py row ↔
      v.field ∈ row.values.map CompletionValue.field ∧ v = t.slot v.field := by
  rw [Store.ownEvidence, ht]
  simp only [List.mem_map]
  constructor
  · rintro ⟨w, hw, rfl⟩
    rw [field_slot]
    exact ⟨⟨w, hw, rfl⟩, rfl⟩
  · rintro ⟨⟨w, hw, hfield⟩, hv⟩
    exact ⟨w, hw, by rw [hfield, ← hv]⟩

theorem stageable_of_accumulate (h : Sound py s) (hm : s.Mapped rows) {staged : StagedTraces}
    (hs : accumulate (s.stageRow py) {} rows = .ok staged) :
    s.Stageable py rows ∧ s.Staged py rows staged := by
  obtain ⟨hstaged, hown, houtcomes⟩ := staged_of_accumulate hs
  refine ⟨⟨houtcomes, hown, fun k => ?_⟩, hstaged⟩
  have hvalues : ∀ v ∈ s.evidenceFor py rows k, v.Mapped ∧ v.pyEq v = true := by
    intro v hv
    obtain ⟨row, hrow, _, hv⟩ := mem_evidenceFor.mp hv
    obtain ⟨t, ht⟩ := hown row hrow
    obtain ⟨_, _, hcompletion⟩ := ownTrace_spec h hm hrow ht
    obtain ⟨_, hslot⟩ := (mem_ownEvidence ht).mp hv
    rw [hslot]
    exact ⟨hcompletion.mapped _, hcompletion.comparable.slots _⟩
  have hmerged := hstaged.values k
  rw [mergeValue_eq] at hmerged
  exact agree_of_merge (fun v hv => (hvalues v hv).2)
    (fun v hv w _ hvw => CompletionValue.pyEq_symm (hvalues v hv).1 hvw)
    (fun _ _ _ => CompletionValue.pyEq_trans) hmerged

end OwnTraces

section JointTraces

-- what the rows of one trace leave behind: every slot is some row's, or none touches it
structure Store.Joint (py : Python) (s : Store) (rows : List CompletionRow) (k : Str)
    (t : Trace) : Prop where
  valid : validateTrace py t = .ok ()
  comparable : t.Comparable
  mapped : ∀ f, (t.slot f).Mapped
  source : ∃ current, s.traces.get? k = some current ∧ t.identity = current.identity ∧
    ∀ f, (∃ v ∈ s.evidenceFor py rows k, v.field = f ∧ t.slot f = v) ∨
      ((∀ v ∈ s.evidenceFor py rows k, v.field ≠ f) ∧ t.slot f = current.slot f)
  result : ∀ row ∈ rows, row.traceId = k → t.evalResult = row.evalResult
  sealed : ∀ current, s.traces.get? k = some current → current.evalResult.evaluated = true →
    t = current

theorem Store.Joint.pyEq {k : Str} {t t' : Trace} (h : s.Joint py rows k t)
    (h' : s.Joint py rows' k t') (hp : rows.Perm rows')
    (ha : Agree CompletionValue.field CompletionValue.pyEq (s.evidenceFor py rows k))
    (hrow : ∃ row ∈ rows, row.traceId = k) : t.pyEq t' = true := by
  obtain ⟨current, hcurrent, hidentity, hslots⟩ := h.source
  obtain ⟨current', hcurrent', hidentity', hslots'⟩ := h'.source
  rw [hcurrent] at hcurrent'
  cases hcurrent'
  have hmem : ∀ v, v ∈ s.evidenceFor py rows' k ↔ v ∈ s.evidenceFor py rows k := by
    intro v
    simp only [mem_evidenceFor, hp.mem_iff]
  obtain ⟨row, hrow, hk⟩ := hrow
  refine (pyEq_of_slots (hidentity.trans hidentity'.symm) h.comparable).mpr
    ⟨(h.result row hrow hk).trans (h'.result row (hp.mem_iff.mp hrow) hk).symm, fun f => ?_⟩
  rcases hslots f with ⟨v, hv, hfield, hslot⟩ | ⟨hnone, hslot⟩
  · rcases hslots' f with ⟨w, hw, hfield', hslot'⟩ | ⟨hnone', _⟩
    · rw [hslot, hslot']
      exact ha v hv w ((hmem w).mp hw) (hfield.trans hfield'.symm)
    · exact absurd hfield (hnone' v ((hmem v).mpr hv))
  · rcases hslots' f with ⟨w, hw, hfield', _⟩ | ⟨_, hslot'⟩
    · exact absurd hfield' (hnone w ((hmem w).mp hw))
    · have hself := h.comparable.slots f
      rw [hslot', ← hslot]
      exact hself

theorem exists_joint (h : Sound py s) (hm : s.Mapped rows) (hs : s.Stageable py rows)
    {staged : StagedTraces} (hst : s.Staged py rows staged) {k : Str} {r : EvalResult}
    (hk : staged.results.get? k = some r) :
    ∃ t, s.stageTrace py staged (k, r) = .ok (k, t) ∧ s.Joint py rows k t := by
  obtain ⟨row, hrow, rfl, rfl⟩ := (hst.results _ _).mp hk
  obtain ⟨own, hown⟩ := hs.candidates row hrow
  obtain ⟨current, hcurrent, hcompletion⟩ := ownTrace_spec h hm hrow hown
  have hcurrentValid := (h.records.traces_at _ _ hcurrent).2
  have hcurrentMapped := hm.traces row hrow _ hcurrent
  have hmerged := hst.values row.traceId
  rw [mergeValue_eq] at hmerged
  have hlatest := latest_of_merge hmerged
  have hresult : ∀ row' ∈ rows, row'.traceId = row.traceId → row.evalResult = row'.evalResult :=
    fun row' hrow' hk' => hs.outcomes row hrow row' hrow' hk'.symm
  -- each merged value is the slot of some row's own completion of this trace
  have horigin : ∀ v ∈ s.evidenceFor py rows row.traceId, ∃ row' ∈ rows, ∃ t,
      OwnCompletion py row' current t ∧ v = t.slot v.field ∧
        v.field ∈ row'.values.map CompletionValue.field := by
    intro v hv
    obtain ⟨row', hrow', hk', hv⟩ := mem_evidenceFor.mp hv
    obtain ⟨t, ht⟩ := hs.candidates row' hrow'
    obtain ⟨current', hcurrent', hcompletion'⟩ := ownTrace_spec h hm hrow' ht
    rw [hk', hcurrent] at hcurrent'
    cases hcurrent'
    obtain ⟨hfield, hslot⟩ := (mem_ownEvidence ht).mp hv
    exact ⟨row', hrow', t, hcompletion', hslot, hfield⟩
  have hvaluesMapped : ∀ v ∈ (staged.values.get? row.traceId).getD [], v.Mapped := by
    intro v hv
    obtain ⟨_, _, t, hcompletion', hslot, _⟩ := horigin v (hlatest.subset hv)
    rw [hslot]
    exact hcompletion'.mapped _
  have hcandidateMapped := mapped_candidate (r := row.evalResult) hcurrentMapped hvaluesMapped
    hlatest.nodup
  have hidentity := identity_completionCandidate current row.evalResult
    ((staged.values.get? row.traceId).getD [])
  have hslots : ∀ f, (∃ v ∈ s.evidenceFor py rows row.traceId, v.field = f ∧
      (completionCandidate current row.evalResult
        ((staged.values.get? row.traceId).getD [])).slot f = v) ∨
      ((∀ v ∈ s.evidenceFor py rows row.traceId, v.field ≠ f) ∧
        (completionCandidate current row.evalResult
          ((staged.values.get? row.traceId).getD [])).slot f = current.slot f) := by
    intro f
    by_cases hf : f ∈ ((staged.values.get? row.traceId).getD []).map CompletionValue.field
    · obtain ⟨v, hv, rfl⟩ := List.mem_map.mp hf
      exact .inl ⟨v, hlatest.subset hv, rfl, slot_candidate_of_mem hlatest.nodup hv⟩
    · exact .inr ⟨fun v hv hfield => hf (hfield ▸ hlatest.covers v hv),
        slot_candidate_of_not_mem hf⟩
  have hvalid : validateTrace py (completionCandidate current row.evalResult
      ((staged.values.get? row.traceId).getD [])) = .ok () := by
    refine validateTrace_of_slots fun f => ?_
    rcases hslots f with ⟨v, hv, rfl, hslot⟩ | ⟨_, hslot⟩
    · obtain ⟨_, _, t, hcompletion', hvslot, _⟩ := horigin v hv
      exact ⟨t, hcompletion'.identity.trans hidentity.symm, hcompletion'.valid,
        hvslot.symm.trans hslot.symm⟩
    · exact ⟨current, hidentity.symm, hcurrentValid, hslot.symm⟩
  have hsame : current.evalResult.evaluated = true → completionCandidate current row.evalResult
      ((staged.values.get? row.traceId).getD []) = current := by
    intro hsealed
    refine Trace.ext_slots hidentity ?_ fun f => ?_
    · rw [evalResult_completionCandidate, ← hcompletion.result, hcompletion.sealed hsealed]
    · rcases hslots f with ⟨v, hv, rfl, hslot⟩ | ⟨_, hslot⟩
      · obtain ⟨_, _, t, hcompletion', hvslot, _⟩ := horigin v hv
        rw [hslot, hvslot, field_slot, hcompletion'.sealed hsealed]
      · exact hslot
  have hjoint : s.Joint py rows row.traceId (completionCandidate current row.evalResult
      ((staged.values.get? row.traceId).getD [])) := by
    refine ⟨hvalid, comparable_of_valid hcandidateMapped hvalid, mapped_slot hcandidateMapped,
      ⟨current, hcurrent, hidentity, hslots⟩, fun row' hrow' hk' => ?_, fun current' hcurrent' => ?_⟩
    · rw [evalResult_completionCandidate, hresult row' hrow' hk']
    · rw [hcurrent] at hcurrent'
      cases hcurrent'
      exact hsame
  have hstage : ∀ t, completedTraceCandidate py current row.evalResult
      ((staged.values.get? row.traceId).getD []) = .ok t →
      s.stageTrace py staged (row.traceId, row.evalResult) = .ok (row.traceId, t) := by
    intro t ht
    simp only [Store.stageTrace, bind_eq_ok, demand_eq_ok, pure_eq_ok]
    exact ⟨current, hcurrent, t, ht, rfl⟩
  cases hsealed : current.evalResult.evaluated with
  | true =>
    refine ⟨_, hstage current ((completedTraceCandidate_eq_ok hlatest.nodup).mpr
      ⟨hvalid, .inl ⟨hsealed, ?_, rfl⟩⟩), hsame hsealed ▸ hjoint⟩
    have hself := hjoint.comparable
    rw [hsame hsealed] at hself ⊢
    exact (pyEq_of_slots rfl hself).mpr ⟨rfl, hself.slots⟩
  | false =>
    refine ⟨_, hstage _ ((completedTraceCandidate_eq_ok hlatest.nodup).mpr
      ⟨hvalid, .inr ⟨hsealed, fun v hv => ?_, rfl⟩⟩), hjoint⟩
    obtain ⟨row', hrow', t, hcompletion', hvslot, hfield⟩ := horigin v (hlatest.subset hv)
    obtain ⟨w, hw, hwfield⟩ := List.mem_map.mp hfield
    have hvw : v = w := by
      rw [hvslot, ← hwfield]
      exact hcompletion'.written hsealed w hw
    rw [hvw]
    exact hcompletion'.rewritable hsealed w hw

end JointTraces

section Batches

theorem mem_of_forall₂ {α β : Type} {R : α → β → Prop} {l : List α} {bs : List β}
    (h : List.Forall₂ R l bs) {a : α} (ha : a ∈ l) : ∃ b ∈ bs, R a b := by
  obtain ⟨b, hb, hab⟩ := exists_of_forall₂ h.flip ha
  exact ⟨b, hb, hab⟩

theorem get?_collected {α κ β : Type} [DecidableEq κ] {f : α → Except Exn (κ × β)} {l : List α}
    {bs : List (κ × β)} (h : collect f l = .ok bs) (hn : (bs.map Prod.fst).Nodup) {k : κ} {b : β} :
    (Dict.ofList bs).get? k = some b ↔ ∃ a ∈ l, f a = .ok (k, b) := by
  have hforall := collect_eq_ok.mp h
  rw [Dict.ofList, Dict.get?_update_nodup _ hn, Dict.get?_empty, Option.or_none,
    Dict.lookupIn_eq_some hn]
  constructor
  · exact fun hb => exists_of_forall₂ hforall hb
  · rintro ⟨a, ha, hab⟩
    obtain ⟨c, hc, hac⟩ := mem_of_forall₂ hforall ha
    rw [hab] at hac
    cases hac
    exact hc

theorem map_fst_collected {α κ β : Type} {f : α → Except Exn (κ × β)} {k : α → κ} {l : List α}
    {bs : List (κ × β)} (h : collect f l = .ok bs)
    (hkey : ∀ a ∈ l, ∀ q, f a = .ok q → q.1 = k a) : bs.map Prod.fst = l.map k := by
  have hforall := collect_eq_ok.mp h
  clear h
  induction hforall with
  | nil => rfl
  | cons hab _ ih =>
    rw [List.map_cons, List.map_cons, hkey _ List.mem_cons_self _ hab,
      ih fun a ha => hkey a (List.mem_cons_of_mem _ ha)]

structure Store.StagedOutcome (py : Python) (s : Store) (rows : List CompletionRow)
    (staged : StagedCompletions) : Prop where
  joint : ∀ k t, staged.traces.get? k = some t →
    (∃ row ∈ rows, row.traceId = k) ∧ s.Joint py rows k t
  covered : ∀ row ∈ rows, ∃ t, staged.traces.get? row.traceId = some t
  logs : ∀ i log, staged.logs.get? i = some log ↔ ∃ row ∈ rows, s.stageLog row = .ok (i, log)
  completions : List.Forall₂ (fun row c => staged.traces.get? row.traceId = some c.trace ∧
    staged.logs.get? row.logIndex = some c.usageLog) rows staged.completions

theorem stageTrace_key {staged : StagedTraces} {p : Str × EvalResult} {q : Str × Trace}
    (h : s.stageTrace py staged p = .ok q) : q.1 = p.1 := by
  simp only [Store.stageTrace, bind_eq_ok, demand_eq_ok, pure_eq_ok] at h
  obtain ⟨_, _, _, _, rfl⟩ := h
  rfl

theorem stageLog_key {q : Nat × MemoryUsageLog} (h : s.stageLog row = .ok q) :
    q.1 = row.logIndex := by
  simp only [Store.stageLog, bind_eq_ok, exists_unit, pure_eq_ok] at h
  obtain ⟨_, _, _, _, _, _, rfl⟩ := h
  rfl

theorem stage_outcome (h : Sound py s) (hm : s.Mapped rows)
    (hi : (rows.map CompletionRow.logIndex).Nodup) {staged : StagedCompletions}
    (hs : s.stageMemoryRunCompletions py rows = .ok staged) :
    s.Stageable py rows ∧ (∀ row ∈ rows, ∃ q, s.stageLog row = .ok q) ∧
      s.StagedOutcome py rows staged := by
  simp only [Store.stageMemoryRunCompletions, bind_eq_ok, pure_eq_ok] at hs
  obtain ⟨inner, hinner, completed, hcompleted, sealed, hsealed, completions, hcompletions, rfl⟩ := hs
  obtain ⟨hstageable, hstaged⟩ := stageable_of_accumulate h hm hinner
  have htraceKeys : (completed.map Prod.fst).Nodup := by
    rw [map_fst_collected (k := Prod.fst) hcompleted fun p _ q => stageTrace_key]
    exact inner.results.nodup
  have hlogKeys : (sealed.map Prod.fst).Nodup := by
    rw [map_fst_collected (k := CompletionRow.logIndex) hsealed fun row _ q => stageLog_key]
    exact hi
  have hlogs : ∀ row ∈ rows, ∃ q, s.stageLog row = .ok q := by
    intro row hrow
    obtain ⟨q, _, hq⟩ := mem_of_forall₂ (collect_eq_ok.mp hsealed) hrow
    exact ⟨q, hq⟩
  refine ⟨hstageable, hlogs, ⟨fun k t hk => ?_, fun row hrow => ?_, fun i log => ?_, ?_⟩⟩
  · obtain ⟨⟨j, r⟩, hp, hq⟩ := (get?_collected hcompleted htraceKeys).mp hk
    cases stageTrace_key hq
    have hget := Dict.get?_eq_some.mpr hp
    obtain ⟨t', ht', hjoint⟩ := exists_joint h hm hstageable hstaged hget
    rw [hq] at ht'
    cases ht'
    obtain ⟨row, hrow, hkey, _⟩ := (hstaged.results _ _).mp hget
    exact ⟨⟨row, hrow, hkey⟩, hjoint⟩
  · have hget := (hstaged.results row.traceId row.evalResult).mpr ⟨row, hrow, rfl, rfl⟩
    obtain ⟨t, ht, _⟩ := exists_joint h hm hstageable hstaged hget
    exact ⟨t, (get?_collected hcompleted htraceKeys).mpr ⟨_, Dict.get?_eq_some.mp hget, ht⟩⟩
  · exact get?_collected hsealed hlogKeys
  · refine (collect_eq_ok.mp hcompletions).imp fun row c hc => ?_
    simp only [stagedCompletion, bind_eq_ok, demand_eq_ok, pure_eq_ok] at hc
    obtain ⟨t, ht, log, hlog, rfl⟩ := hc
    exact ⟨ht, hlog⟩

theorem exists_stage (h : Sound py s) (hm : s.Mapped rows)
    (hi : (rows.map CompletionRow.logIndex).Nodup) (hs : s.Stageable py rows)
    (hl : ∀ row ∈ rows, ∃ q, s.stageLog row = .ok q) :
    ∃ staged, s.stageMemoryRunCompletions py rows = .ok staged := by
  obtain ⟨inner, hinner⟩ := exists_staged hs
  obtain ⟨_, hstaged⟩ := stageable_of_accumulate h hm hinner
  have htotal : ∀ p ∈ inner.results.entries, ∃ q, s.stageTrace py inner p = .ok q := by
    intro p hp
    obtain ⟨t, ht, _⟩ := exists_joint h hm hs hstaged (Dict.get?_eq_some.mpr hp)
    exact ⟨_, ht⟩
  obtain ⟨completed, hcompleted⟩ := collect_total htotal
  obtain ⟨sealed, hsealed⟩ := collect_total hl
  have htraceKeys : (completed.map Prod.fst).Nodup := by
    rw [map_fst_collected (k := Prod.fst) hcompleted fun p _ q => stageTrace_key]
    exact inner.results.nodup
  have hlogKeys : (sealed.map Prod.fst).Nodup := by
    rw [map_fst_collected (k := CompletionRow.logIndex) hsealed fun row _ q => stageLog_key]
    exact hi
  have hcompletions : ∀ row ∈ rows, ∃ c,
      stagedCompletion (Dict.ofList completed) (Dict.ofList sealed) row = .ok c := by
    intro row hrow
    have hget := (hstaged.results row.traceId row.evalResult).mpr ⟨row, hrow, rfl, rfl⟩
    obtain ⟨t, ht, _⟩ := exists_joint h hm hs hstaged hget
    obtain ⟨⟨i, log⟩, hq⟩ := hl row hrow
    cases stageLog_key hq
    have htrace := (get?_collected hcompleted htraceKeys).mpr ⟨_, Dict.get?_eq_some.mp hget, ht⟩
    have hlog := (get?_collected hsealed hlogKeys).mpr ⟨row, hrow, hq⟩
    refine ⟨⟨t, log⟩, ?_⟩
    simp only [stagedCompletion, bind_eq_ok, demand_eq_ok, pure_eq_ok]
    exact ⟨t, htrace, log, hlog, rfl⟩
  obtain ⟨completions, hcompletions⟩ := collect_total hcompletions
  refine ⟨⟨Dict.ofList completed, Dict.ofList sealed, completions⟩, ?_⟩
  simp only [Store.stageMemoryRunCompletions, bind_eq_ok, pure_eq_ok]
  exact ⟨inner, hinner, completed, hcompleted, sealed, hsealed, completions, hcompletions, rfl⟩

end Batches

end TraceBackedMemory
