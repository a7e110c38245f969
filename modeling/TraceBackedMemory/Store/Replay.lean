import TraceBackedMemory.Store.OneByOne
import TraceBackedMemory.Store.ReadyRecovery

namespace TraceBackedMemory

open Text Raising

variable {py : Python} {s s' s'' : Store} {env : Env} {d : Str} {i : Nat} {log log' : MemoryUsageLog}
  {t t' : Trace}

section Keeping

-- what is measured in the first store is still there, unchanged, in the second
structure Store.Keeps (s s' : Store) : Prop where
  traces : ∀ k t, s.traces.get? k = some t → t.evalResult.evaluated = true → s'.traces.get? k = some t
  logs : s.LogsKept s'

theorem Store.Keeps.refl (s : Store) : s.Keeps s := ⟨fun _ _ ht _ => ht, .refl s⟩

theorem run_keeps (h : Sound py s) (calls : List (Env × Operation)) :
    s.Keeps (runStore py s calls) :=
  ⟨fun _ _ ht hm => measured_kept (runStore_effects h calls) ht hm, run_keepsLogs h calls⟩

theorem Store.Decided.later (hd : s.Decided d i log t) (hk : s.Keeps s') (h' : Sound py s')
    (hlog : evaluated? log.evalResult = true) (ht : t.evalResult.evaluated = true) :
    s'.Decided d i log t := by
  have hlater := hk.logs i log hd.log_at hlog
  obtain ⟨t', hd'⟩ := decided_of_log h' hlater
  have hid := hd'.trace_id
  rw [hd.trace_id] at hid
  have htrace := hk.traces t.traceId t hd.trace_at ht
  rw [Option.some.inj hid, hd'.trace_at] at htrace
  obtain rfl := Option.some.inj htrace
  rw [← hd.decision_id]
  exact hd'

theorem Store.Decided.completion (hd : s.Decided d i log t) : s.completion? d = some ⟨t, log⟩ :=
  completion_of hd.index_at hd.log_at hd.trace_id hd.trace_at

-- the decision is sealed with the outcome its trace has, and the store holds the two as they are
structure Store.Consistent (s : Store) (c : MemoryRunCompletion) : Prop where
  outcome : c.usageLog.evalResult = some c.trace.evalResult
  measured : c.trace.evalResult.evaluated = true
  stored : s.completion? c.usageLog.decisionId = some c

theorem decided_completed (hd : s.Decided d i log t) (hi : t'.traceId = t.traceId)
    (hlog : log.Seals log') (h' : Sound py (s.completed i t' log')) :
    (s.completed i t' log').Decided d i log' t' := by
  have hat : (s.completed i t' log').usageLogs[i]? = some log' :=
    List.getElem?_set_self (List.getElem?_eq_some_iff.mp hd.log_at).1
  obtain ⟨u, hu⟩ := decided_of_log h' hat
  have hdecision : log'.decisionId = d := by
    have hunmeasured := congrArg MemoryUsageLog.decisionId hlog.1
    exact hunmeasured.trans hd.decision_id
  have htraceId : log'.traceId = some t.traceId := hlog.traceId.trans hd.trace_id
  have htrace : (s.completed i t' log').traces.get? t'.traceId = some t' :=
    Dict.get?_set_self _ _ _
  have hid := hu.trace_id
  rw [htraceId, ← hi] at hid
  rw [Option.some.inj hid, hu.trace_at] at htrace
  obtain rfl := Option.some.inj htrace
  rw [← hdecision]
  exact hu

end Keeping

section Again

variable {r : EvalResult} {b : Bool} {values : List CompletionValue}

theorem candidate_mapped (hn : (values.map CompletionValue.field).Nodup)
    (hv : ∀ v ∈ values, v.Mapped) (ht : t.Mapped)
    (h : completedTraceCandidate py t r values = .ok t') : t'.Mapped := by
  obtain ⟨_, ⟨_, _, rfl⟩ | ⟨_, _, rfl⟩⟩ := (completedTraceCandidate_eq_ok hn).mp h
  · exact ht
  · exact mapped_candidate ht hv hn

theorem candidate_again (hn : (values.map CompletionValue.field).Nodup)
    (hv : ∀ v ∈ values, v.Mapped) (ht : t.Mapped) (hr : r.evaluated = true)
    (h : completedTraceCandidate py t r values = .ok t') :
    completedTraceCandidate py t' r values = .ok t' := by
  have hmapped := candidate_mapped hn hv ht h
  obtain ⟨hvalid, ⟨_, _, rfl⟩ | ⟨_, _, rfl⟩⟩ := (completedTraceCandidate_eq_ok hn).mp h
  · exact h
  · refine (completedTraceCandidate_eq_ok hn).mpr ?_
    rw [completionCandidate_idem hn]
    have hcomparable := comparable_of_valid hmapped hvalid
    refine ⟨hvalid, .inl ⟨?_, (pyEq_of_slots rfl hcomparable).mpr ⟨rfl, hcomparable.slots⟩, rfl⟩⟩
    rw [evalResult_completionCandidate]
    exact hr

theorem sealed_outcome (h : sealedUsageOutcomeCandidate log r b = .ok log') :
    log'.evalResult = some r ∧ log'.memoryCausedFailure = b ∧ validateUsageLog log' = .ok () := by
  unfold sealedUsageOutcomeCandidate at h
  split at h
  · split at h
    · rename_i hsame
      simp only [seq_eq_ok, pure_eq_ok] at h
      obtain ⟨hvalid, rfl⟩ := h
      exact ⟨hsame.1, hsame.2, hvalid⟩
    · cases h
  · simp only [seq_eq_ok, pure_eq_ok] at h
    obtain ⟨hvalid, rfl⟩ := h
    exact ⟨rfl, rfl, hvalid⟩

theorem sealed_again (hr : r.evaluated = true) (h : sealedUsageOutcomeCandidate log r b = .ok log') :
    sealedUsageOutcomeCandidate log' r b = .ok log' := by
  obtain ⟨hresult, hcaused, hvalid⟩ := sealed_outcome h
  have hsealed : evaluated? log'.evalResult = true := by
    rw [hresult]
    exact hr
  rw [sealedUsageOutcomeCandidate, if_pos hsealed, if_pos ⟨hresult, hcaused⟩]
  simp only [seq_eq_ok, pure_eq_ok]
  exact ⟨hvalid, trivial⟩

theorem completed_same (hd : s.Decided d i log t) : s.completed i t log = s := by
  rw [Store.completed, Dict.set_of_get? hd.trace_at]
  have hlogs : s.usageLogs.set i log = s.usageLogs := by
    obtain ⟨hi, hlog⟩ := List.getElem?_eq_some_iff.mp hd.log_at
    rw [← hlog]
    exact List.set_getElem_self hi
  rw [hlogs]

end Again

section Single

variable {r : EvalResult} {b : Bool} {a : CompletionArguments} {k : Str} {c : MemoryRunCompletion}

def CompletionArguments.Mapped (a : CompletionArguments) : Prop :=
  ∀ l, a.toolOutputs = some l → areMappings l

theorem mapped_provided (ha : a.Mapped) {v : CompletionValue} (hv : v ∈ a.provided) : v.Mapped := by
  simp only [CompletionArguments.provided, List.mem_append, Option.mem_toList,
    Option.map_eq_some_iff] at hv
  obtain ((((⟨_, _, rfl⟩ | ⟨l, hl, rfl⟩) | ⟨_, _, rfl⟩) | ⟨_, _, rfl⟩) | ⟨_, _, rfl⟩) | ⟨_, _, rfl⟩ := hv
  case inl.inl.inl.inl.inr => exact ha l hl
  all_goals trivial

theorem completeTrace_eq_ok : completeTrace py k r a s = .ok t' s' ↔
    s.completedTrace py k r a = .ok t' ∧ s' = { s with traces := s.traces.set k t' } := by
  simp only [completeTrace, run_bind_eq_ok, run_inspect_eq_ok, run_assign_eq_ok, run_pure_eq_ok]
  constructor
  · rintro ⟨_, _, ⟨h, rfl⟩, _, _, rfl, rfl, rfl⟩
    exact ⟨h, rfl⟩
  · rintro ⟨h, rfl⟩
    exact ⟨t', s, ⟨h, rfl⟩, (), _, rfl, rfl, rfl⟩

theorem completedTrace_eq_ok : s.completedTrace py k r a = .ok t' ↔
    validateRequiredString k (lit "trace_id") (lit "trace completion requires")
      (some memoryIdMaxChars) = .ok () ∧
    validateMeasuredEvalResult r (lit "trace completion") = .ok () ∧
    ∃ t, s.traces.get? k = some t ∧ completedTraceCandidate py t r a.provided = .ok t' := by
  simp only [Store.completedTrace, bind_eq_ok, exists_unit, demand_eq_ok]

theorem evaluated_of_measured {label : Str} (h : validateMeasuredEvalResult r label = .ok ()) :
    r.evaluated = true := by
  simpa only [validateMeasuredEvalResult, raiseIf_eq_ok, Bool.not_eq_false] using h

theorem completeTrace_again (hs : s.TracesMapped) (ha : a.Mapped)
    (h : completeTrace py k r a s = .ok t' s') (hk : s'.Keeps s'') :
    completeTrace py k r a s'' = .ok t' s'' := by
  obtain ⟨hc, rfl⟩ := completeTrace_eq_ok.mp h
  obtain ⟨hid, hmeasured, t, ht, hcandidate⟩ := completedTrace_eq_ok.mp hc
  have hr := evaluated_of_measured hmeasured
  have hlater : s''.traces.get? k = some t' :=
    hk.traces k t' (Dict.get?_set_self _ _ _) (measured_of_candidate hr hcandidate)
  refine completeTrace_eq_ok.mpr ⟨completedTrace_eq_ok.mpr ⟨hid, hmeasured, t', hlater, ?_⟩, ?_⟩
  · exact candidate_again (nodup_provided a) (fun v hv => mapped_provided ha hv) (hs k t ht) hr
      hcandidate
  · rw [Dict.set_of_get? hlater]

theorem exists_decided (h : Sound py s) (hc : completeMemoryRun py k d r b a s = .ok c s') :
    ∃ i log t, s.Decided d i log t ∧ k = t.traceId := by
  simp only [completeMemoryRun, run_bind_eq_ok, run_inspect_eq_ok] at hc
  obtain ⟨run, _, ⟨hrun, rfl⟩, _⟩ := hc
  simp only [Store.completedRun, Store.usageLogIndex, Store.usageLogAt, bind_eq_ok, exists_unit,
    demand_eq_ok, raiseIf_eq_ok] at hrun
  obtain ⟨_, _, _, t, _, i, hi, log, hlog, hbelongs, _⟩ := hrun
  obtain ⟨log', t', hd⟩ := decided_of_index h hi
  have hsame := hd.log_at
  rw [hlog] at hsame
  cases hsame
  have hid : log.traceId = some k := by
    by_contra hne
    exact hbelongs (.inl hne)
  rw [hd.trace_id] at hid
  exact ⟨i, log, t', hd, (Option.some.inj hid).symm⟩

theorem completeMemoryRun_later (h : Sound py s) (hc : completeMemoryRun py k d r b a s = .ok c s')
    (hk : s'.Keeps s'') (h'' : Sound py s'') :
    s''.Consistent c ∧ k = c.trace.traceId ∧ ∃ i, s''.Decided d i c.usageLog c.trace := by
  obtain ⟨i, log, t, hd, rfl⟩ := exists_decided h hc
  have hsound : Sound py s' := sound_effect h (completeMemoryRun_effect hc)
  obtain ⟨houtcome, hcandidate, hsealed, rfl⟩ := (completeMemoryRun_eq_ok h hd).mp hc
  have hresult := result_of_candidate hcandidate
  have hlog := (sealed_outcome hsealed).1
  have htrace : c.trace.evalResult.evaluated = true := hresult ▸ evaluated_of_outcome houtcome
  have hi := traceId_of_identity (completes_of_candidate hcandidate).1.1
  have hdecided := (decided_completed hd hi (seals_of_candidate hsealed) hsound).later hk h''
    (by rw [hlog, ← hresult]; exact htrace) htrace
  refine ⟨⟨by rw [hlog, hresult], htrace, ?_⟩, hi.symm, i, hdecided⟩
  rw [hdecided.decision_id]
  exact hdecided.completion

theorem completeMemoryRun_again (h : Sound py s) (hs : s.TracesMapped) (ha : a.Mapped)
    (hc : completeMemoryRun py k d r b a s = .ok c s') (hk : s'.Keeps s'') (h'' : Sound py s'') :
    completeMemoryRun py k d r b a s'' = .ok c s'' := by
  obtain ⟨_, hid, j, hlater⟩ := completeMemoryRun_later h hc hk h''
  obtain ⟨i, log, t, hd, hkt⟩ := exists_decided h hc
  rw [hkt] at hc
  obtain ⟨houtcome, hcandidate, hsealed, _⟩ := (completeMemoryRun_eq_ok h hd).mp hc
  have hr := evaluated_of_outcome houtcome
  rw [hid]
  refine (completeMemoryRun_eq_ok h'' hlater).mpr ⟨houtcome, ?_, sealed_again hr hsealed,
    (completed_same hlater).symm⟩
  exact candidate_again (nodup_provided a) (fun v hv => mapped_provided ha hv)
    (hs _ t hd.trace_at) hr hcandidate

end Single

section Batch

variable {ids : List Str} {rows : List CompletionRow} {row : CompletionRow} {staged : StagedCompletions}

-- the later store still holds what the row left behind, and the row asks for just that
structure Store.Holds (s'' : Store) (py : Python) (staged : StagedCompletions) (row : CompletionRow)
    (d : Str) (log : MemoryUsageLog) (t : Trace) : Prop where
  decided : s''.Decided d row.logIndex log t
  trace_id : row.traceId = t.traceId
  trace_staged : staged.traces.get? row.traceId = some t
  log_staged : staged.logs.get? row.logIndex = some log
  trace_again : completedTraceCandidate py t row.evalResult row.values = .ok t
  log_again : sealedUsageOutcomeCandidate log row.evalResult row.memoryCausedFailure = .ok log
  mapped : t.Mapped
  comparable : t.Comparable
  measured : t.evalResult.evaluated = true
  outcome : log.evalResult = some t.evalResult

theorem joint_again (h : Sound py s) (hm : s.Mapped rows) (hs : s.Stageable py rows)
    (hrow : row ∈ rows) (hr : row.evalResult.evaluated = true) (hj : s.Joint py rows row.traceId t) :
    t.Mapped ∧ completedTraceCandidate py t row.evalResult row.values = .ok t := by
  obtain ⟨u, hu⟩ := hs.candidates row hrow
  obtain ⟨current, hcurrent, hown⟩ := ownTrace_spec h hm hrow hu
  obtain ⟨current', hcurrent', hidentity, hslots⟩ := hj.source
  rw [hcurrent] at hcurrent'
  cases hcurrent'
  have hcandidate : completedTraceCandidate py current row.evalResult row.values = .ok u := by
    obtain ⟨current', hc, hcandidate⟩ := bind_eq_ok.mp hu
    rw [demand_eq_ok, hcurrent] at hc
    cases hc
    exact hcandidate
  have hmapped := mapped_of_identity (hm.traces row hrow _ hcurrent) hidentity (hj.mapped _)
  refine ⟨hmapped, completed_again (hm.fields row hrow) (hm.values row hrow) hmapped hj.valid
    (hj.result row hrow rfl) hr hidentity hcandidate fun v hv => ?_⟩
  -- the row's own value agrees with the one the joint trace took from the evidence
  have hmine : u.slot v.field ∈ s.evidenceFor py rows row.traceId := by
    refine mem_evidenceFor.mpr ⟨row, hrow, rfl, (mem_ownEvidence hu).mpr ?_⟩
    rw [field_slot]
    exact ⟨List.mem_map_of_mem hv, rfl⟩
  rcases hslots v.field with ⟨w, hw, hfield, hslot⟩ | ⟨hnone, _⟩
  · rw [hslot]
    exact CompletionValue.pyEq_trans (hown.provided v hv)
      (hs.evidence _ _ hmine w hw ((field_slot u v.field).trans hfield.symm))
  · exact absurd (field_slot u v.field) (hnone _ hmine)

theorem row_held (h : Sound py s) (hm : s.Mapped rows) (hn : ids.Nodup)
    (hids : List.Forall₂ s.RowOf ids rows) (hr : ∀ row ∈ rows, row.evalResult.evaluated = true)
    (hstage : s.stageMemoryRunCompletions py rows = .ok staged) (hw : Sound py (s.written staged))
    (hk : (s.written staged).Keeps s'') (h'' : Sound py s'') (hrow : row ∈ rows)
    (hd : s.RowOf d row) : ∃ log t, s''.Holds py staged row d log t := by
  have hg := grounded_of_rowOf hids
  obtain ⟨hstageable, hlogs, ho⟩ := stage_outcome h hm (nodup_of_rowOf hn hids) hstage
  obtain ⟨⟨_, sealed⟩, hsealed⟩ := hlogs row hrow
  obtain rfl := stageLog_key hsealed
  obtain ⟨t, hdecided, hid, htrace⟩ := row_written hg ho hw hrow hd hsealed
  obtain ⟨_, hjoint⟩ := ho.joint _ _ htrace
  obtain ⟨hmapped, hagain⟩ := joint_again h hm hstageable hrow (hr row hrow) hjoint
  have hresult := hjoint.result row hrow rfl
  have hmeasured : t.evalResult.evaluated = true := hresult ▸ hr row hrow
  obtain ⟨log, _, hdecidedBefore, _⟩ := hd
  obtain ⟨_, hq, hcandidate⟩ := (stageLog_eq_ok hdecidedBefore).mp hsealed
  obtain rfl := (Prod.mk.inj hq).2
  have houtcome : sealed.evalResult = some t.evalResult := by
    rw [hresult]
    exact (sealed_outcome hcandidate).1
  refine ⟨sealed, t, hdecided.later hk h'' (by rw [houtcome]; exact hmeasured) hmeasured, hid, htrace,
    (ho.logs _ _).mpr ⟨row, hrow, hsealed⟩, hagain, sealed_again (hr row hrow) hcandidate, hmapped,
    hjoint.comparable, hmeasured, houtcome⟩

theorem stageable_again (hm : s.Mapped rows) (hs : s.Stageable py rows)
    (hheld : ∀ row ∈ rows, ∃ d log t, s''.Holds py staged row d log t) :
    s''.Stageable py rows ∧ s''.Mapped rows := by
  have hown : ∀ row ∈ rows, ∃ d log t, s''.Holds py staged row d log t ∧
      s''.ownTrace py row = .ok t := by
    intro row hrow
    obtain ⟨d, log, t, hh⟩ := hheld row hrow
    refine ⟨d, log, t, hh, bind_eq_ok.mpr ⟨t, ?_, hh.trace_again⟩⟩
    rw [demand_eq_ok, hh.trace_id]
    exact hh.decided.trace_at
  refine ⟨⟨hs.outcomes, fun row hrow => ?_, fun k v hv w hw hfield => ?_⟩,
    fun row hrow u hu => ?_, hm.values, hm.fields⟩
  · obtain ⟨_, _, t, _, ht⟩ := hown row hrow
    exact ⟨t, ht⟩
  · obtain ⟨row, hrow, hk, hv⟩ := mem_evidenceFor.mp hv
    obtain ⟨row', hrow', hk', hw⟩ := mem_evidenceFor.mp hw
    obtain ⟨_, _, t, hh, ht⟩ := hown row hrow
    obtain ⟨_, _, t', hh', ht'⟩ := hown row' hrow'
    have hstaged := hh.trace_staged
    rw [hk, ← hk', hh'.trace_staged] at hstaged
    obtain rfl := Option.some.inj hstaged
    rw [((mem_ownEvidence ht).mp hv).2, ((mem_ownEvidence ht').mp hw).2, hfield]
    exact hh.comparable.slots _
  · obtain ⟨_, _, t, hh⟩ := hheld row hrow
    rw [hh.trace_id, hh.decided.trace_at] at hu
    obtain rfl := Option.some.inj hu
    exact hh.mapped

theorem written_same (hg : s''.Grounded rows) {staged' : StagedCompletions}
    (ho : s''.StagedOutcome py rows staged')
    (hheld : ∀ row ∈ rows, ∃ d log t, s''.Holds py staged row d log t) :
    s''.written staged' = s'' := by
  have htraces : (s''.written staged').traces = s''.traces := by
    refine Dict.ext_get? (keys_written ho) fun k => ?_
    rw [get?_written_traces]
    cases hk : staged'.traces.get? k with
    | none => rw [Option.none_or]
    | some u =>
      obtain ⟨⟨row, hrow, rfl⟩, hjoint⟩ := ho.joint k u hk
      obtain ⟨_, _, t, hh⟩ := hheld row hrow
      have hat : s''.traces.get? row.traceId = some t := by
        rw [hh.trace_id]
        exact hh.decided.trace_at
      rw [Option.some_or, hjoint.sealed t hat hh.measured, hat]
  have hlogs : (s''.written staged').usageLogs = s''.usageLogs := by
    refine List.ext_getElem? fun i => ?_
    rw [getElem?_written_logs hg ho]
    cases hi : staged'.logs.get? i with
    | none => rw [Option.none_or]
    | some log' =>
      obtain ⟨row, hrow, hlog⟩ := (ho.logs i log').mp hi
      obtain rfl := stageLog_key hlog
      obtain ⟨_, log, t, hh⟩ := hheld row hrow
      obtain ⟨_, hq, hsealed⟩ := (stageLog_eq_ok hh.decided).mp hlog
      obtain rfl := (Prod.mk.inj hq).2
      rw [hh.log_again] at hsealed
      obtain rfl := Except.ok.inj hsealed
      rw [Option.some_or]
      exact hh.decided.log_at.symm
  have hrest : s''.written staged' = { s'' with
      traces := (s''.written staged').traces
      usageLogs := (s''.written staged').usageLogs } := rfl
  rw [hrest, htraces, hlogs]

theorem rows_again (h : Sound py s) (hm : s.Mapped rows) (hn : ids.Nodup)
    (hids : List.Forall₂ s.RowOf ids rows) (hr : ∀ row ∈ rows, row.evalResult.evaluated = true)
    (hstage : s.stageMemoryRunCompletions py rows = .ok staged) (hw : Sound py (s.written staged))
    (hk : (s.written staged).Keeps s'') (h'' : Sound py s'') :
    ∃ staged', s''.stageMemoryRunCompletions py rows = .ok staged' ∧
      staged'.completions = staged.completions ∧ s''.written staged' = s'' := by
  have hheldRow : ∀ d row, row ∈ rows → s.RowOf d row → ∃ log t, s''.Holds py staged row d log t :=
    fun d row hrow hd => row_held h hm hn hids hr hstage hw hk h'' hrow hd
  have hheld : ∀ row ∈ rows, ∃ d log t, s''.Holds py staged row d log t := by
    intro row hrow
    obtain ⟨d, hd⟩ := grounded_of_rowOf hids row hrow
    obtain ⟨log, t, hh⟩ := hheldRow d row hrow hd
    exact ⟨d, log, t, hh⟩
  obtain ⟨hstageable, _, ho⟩ := stage_outcome h hm (nodup_of_rowOf hn hids) hstage
  obtain ⟨hstageable', hm'⟩ := stageable_again hm hstageable hheld
  have hids' : List.Forall₂ s''.RowOf ids rows := by
    have hmem := (List.forall₂_and_left rows ids).mpr ⟨fun row hrow => hrow, hids.flip⟩
    refine List.Forall₂.flip (hmem.imp fun row d hd => ?_)
    obtain ⟨log, t, hh⟩ := hheldRow d row hd.1 hd.2
    exact ⟨log, t, hh.decided, hh.trace_id⟩
  obtain ⟨staged', hstage'⟩ := exists_stage h'' hm' (nodup_of_rowOf hn hids') hstageable'
    fun row hrow => by
      obtain ⟨_, log, t, hh⟩ := hheld row hrow
      exact ⟨_, (stageLog_eq_ok hh.decided).mpr ⟨log, rfl, hh.log_again⟩⟩
  obtain ⟨_, _, ho'⟩ := stage_outcome h'' hm' (nodup_of_rowOf hn hids') hstage'
  have hsame := written_same (grounded_of_rowOf hids') ho' hheld
  refine ⟨staged', hstage', ?_, hsame⟩
  have hlater := completions_written hids' (grounded_of_rowOf hids') ho'
  rw [hsame] at hlater
  have hfirst : staged.completions.map some = ids.map s''.completion? := by
    rw [completions_written hids (grounded_of_rowOf hids) ho]
    refine List.map_congr_left fun d hd => ?_
    obtain ⟨row, hrow, hof⟩ := mem_of_forall₂ hids hd
    obtain ⟨log, t, hh⟩ := hheldRow d row hrow hof
    obtain ⟨log', t', hh'⟩ := row_held h hm hn hids hr hstage hw (.refl _) hw hrow hof
    have htrace := hh'.trace_staged
    rw [hh.trace_staged] at htrace
    have hlog := hh'.log_staged
    rw [hh.log_staged] at hlog
    rw [hh.decided.completion, hh'.decided.completion, Option.some.inj htrace, Option.some.inj hlog]
  exact List.map_injective_iff.mpr (Option.some_injective _) (hlater.trans hfirst.symm)

theorem rows_consistent (h : Sound py s) (hm : s.Mapped rows) (hn : ids.Nodup)
    (hids : List.Forall₂ s.RowOf ids rows) (hr : ∀ row ∈ rows, row.evalResult.evaluated = true)
    (hstage : s.stageMemoryRunCompletions py rows = .ok staged) (hw : Sound py (s.written staged))
    (hk : (s.written staged).Keeps s'') (h'' : Sound py s'') {c : MemoryRunCompletion}
    (hc : c ∈ staged.completions) : s''.Consistent c := by
  obtain ⟨_, _, ho⟩ := stage_outcome h hm (nodup_of_rowOf hn hids) hstage
  obtain ⟨row, hrow, htrace, hlog⟩ := exists_of_forall₂ ho.completions hc
  obtain ⟨d, hd⟩ := grounded_of_rowOf hids row hrow
  obtain ⟨log, t, hh⟩ := row_held h hm hn hids hr hstage hw hk h'' hrow hd
  rw [hh.trace_staged] at htrace
  rw [hh.log_staged] at hlog
  obtain rfl := Option.some.inj htrace
  obtain rfl := Option.some.inj hlog
  refine ⟨hh.outcome, hh.measured, ?_⟩
  rw [hh.decided.decision_id]
  exact hh.decided.completion

end Batch

end TraceBackedMemory
