import TraceBackedMemory.Store.Replay

namespace TraceBackedMemory

open Text Raising

variable {py : Python} {s s' s'' : Store} {env : Env} {d : Str} {i : Nat} {log log' : MemoryUsageLog}
  {t t' : Trace}

section Batches

variable {ids : List Str} {results : List MemoryRunResult} {out : List MemoryRunCompletion}
  {rows : List CompletionRow}

theorem collect_again {α β : Type} {f g : α → Except Exn β} {l : List α} {bs : List β}
    (h : collect f l = .ok bs) (hfg : ∀ a ∈ l, ∀ b ∈ bs, f a = .ok b → g a = .ok b) :
    collect g l = .ok bs := by
  have hforall := collect_eq_ok.mp h
  rw [collect_eq_ok]
  clear h
  induction hforall with
  | nil => exact .nil
  | cons hab _ ih =>
    refine .cons (hfg _ List.mem_cons_self _ List.mem_cons_self hab) (ih fun a ha b hb => ?_)
    exact hfg a (List.mem_cons_of_mem _ ha) b (List.mem_cons_of_mem _ hb)

theorem measured_results (h : Sound py s) (hv : validatedMemoryRunResults results = .ok ())
    (hr : collect s.resultRow results = .ok rows) :
    ∀ row ∈ rows, row.evalResult.evaluated = true := by
  intro row hrow
  obtain ⟨r, hmem, hr⟩ := collect_mem hr hrow
  obtain ⟨_, _, _, _, rfl⟩ := (resultRow_eq_ok h).mp hr
  have heach := (validatedMemoryRunResults_eq_ok.mp hv).2.2.1 r hmem
  simp only [validateMemoryRunResult, seq_eq_ok] at heach
  exact evaluated_of_outcome heach.2

theorem completeMemoryRuns_later (h : Sound py s) (hs : s.TracesMapped)
    (hm : ∀ r ∈ results, r.Mapped) (hrun : completeMemoryRuns py results s = .ok out s')
    (hk : s'.Keeps s'') (h'' : Sound py s'') :
    completeMemoryRuns py results s'' = .ok out s'' ∧ ∀ c ∈ out, s''.Consistent c := by
  have hw := sound_effect h (completeMemoryRuns_effect hrun)
  obtain ⟨hv, rows, hrows, staged, hstage, rfl, rfl⟩ := completeMemoryRuns_eq_ok.mp hrun
  have hn := (validatedMemoryRunResults_eq_ok.mp hv).2.2.2
  have hmapped := mapped_of_results h hs hm hrows
  have hids := rowOf_results h hrows
  have hr := measured_results h hv hrows
  refine ⟨?_, fun c hc => rows_consistent h hmapped hn hids hr hstage hw hk h'' hc⟩
  obtain ⟨staged', hstage', hout, hsame⟩ := rows_again h hmapped hn hids hr hstage hw hk h''
  refine completeMemoryRuns_eq_ok.mpr ⟨hv, rows, ?_, staged', hstage', hout.symm, hsame.symm⟩
  refine collect_again hrows fun r _ row hrow hr' => ?_
  obtain ⟨i, log, t, hd, hshape⟩ := (resultRow_eq_ok h).mp hr'
  have hof : s.RowOf r.decisionId row := by
    rw [hshape]
    exact ⟨log, t, hd, rfl⟩
  obtain ⟨log', t', hh⟩ := row_held h hmapped hn hids hr hstage hw hk h'' hrow hof
  refine (resultRow_eq_ok h'').mpr ⟨row.logIndex, log', t', hh.decided, ?_⟩
  rw [← hh.trace_id, hshape]

end Batches

section Recovery

variable {b : Option Bool} {q : EvalResult × Bool} {ids : List Str} {attributions : Dict Str Bool}
  {out : List MemoryRunCompletion} {rows : List CompletionRow}

theorem status_measured (ht : t.evalResult.evaluated = true) :
    memoryRunAuditStatus t.evalResult log.evalResult =
      if evaluated? log.evalResult then
        if log.evalResult = some t.evalResult then .complete else .conflict
      else .traceOnly := by
  rw [memoryRunAuditStatus, ht]
  cases evaluated? log.evalResult <;> rfl

theorem resolved_eq_ok (h : resolvedMemoryRunRecovery t log b = .ok q) :
    validateMeasuredOutcome q.1 q.2 = .ok () ∧ (∀ x, b = some x → q.2 = x) ∧
      (t.evalResult.evaluated = true → q.1 = t.evalResult) := by
  unfold resolvedMemoryRunRecovery at h
  cases hs : memoryRunAuditStatus t.evalResult log.evalResult <;> rw [hs] at h
  case pending | conflict => cases h
  case traceOnly =>
    cases b with
    | none =>
      dsimp only at h
      split at h
      · cases h
      · obtain ⟨_, ⟨⟩, h⟩ := bind_eq_ok.mp h
        obtain ⟨_, houtcome, ⟨⟩⟩ := bind_eq_ok.mp h
        exact ⟨houtcome, by simp, fun _ => rfl⟩
    | some x =>
      obtain ⟨_, ⟨⟩, h⟩ := bind_eq_ok.mp h
      obtain ⟨_, houtcome, ⟨⟩⟩ := bind_eq_ok.mp h
      exact ⟨houtcome, by simp, fun _ => rfl⟩
  case decisionOnly | complete =>
    obtain ⟨_, ⟨⟩, h⟩ := bind_eq_ok.mp h
    obtain ⟨_, houtcome, ⟨⟩⟩ := bind_eq_ok.mp h
    refine ⟨houtcome, ?_, fun ht => ?_⟩
    · rintro x rfl
      rfl
    · rw [status_measured ht] at hs
      split_ifs at hs with _ hsame <;> exact congrArg (Option.getD · .unknown) hsame

theorem resolved_again (h : resolvedMemoryRunRecovery t log b = .ok q)
    (hresult : log'.evalResult = some q.1) (hcaused : log'.memoryCausedFailure = q.2)
    (ht : t'.evalResult = q.1) : resolvedMemoryRunRecovery t' log' b = .ok q := by
  obtain ⟨houtcome, hattributed, _⟩ := resolved_eq_ok h
  have hr := evaluated_of_outcome houtcome
  have hstatus : memoryRunAuditStatus t'.evalResult log'.evalResult = .complete := by
    rw [hresult, ht, memoryRunAuditStatus, hr, show evaluated? (some q.1) = true from hr]
    exact if_pos rfl
  have hpair : (log'.evalResult.getD .unknown, b.getD log'.memoryCausedFailure) = q := by
    rw [hresult, hcaused]
    cases b with
    | none => rfl
    | some x =>
      rw [Option.getD_some, Option.getD_some, ← hattributed x rfl]
  simp only [resolvedMemoryRunRecovery, hstatus, bind_eq_ok, exists_unit, pure_eq_ok]
  exact ⟨q, congrArg Except.ok hpair, houtcome, rfl⟩

theorem recoveryRow_eq_ok (h : Sound py s) {row : CompletionRow} :
    s.recoveryRow attributions d = .ok row ↔ ∃ i log t q, s.Decided d i log t ∧
      resolvedMemoryRunRecovery t log (attributions.get? d) = .ok q ∧
      row = ⟨i, t.traceId, q.1, q.2, []⟩ := by
  simp only [Store.recoveryRow, Store.usageLogIndex, Store.usageLogAt, bind_eq_ok, demand_eq_ok,
    pure_eq_ok]
  constructor
  · rintro ⟨i, hi, log, hlog, t, ht, q, hq, rfl⟩
    obtain ⟨log', u, hd⟩ := decided_of_index h hi
    have hsame := hd.log_at
    rw [hlog] at hsame
    obtain rfl := Option.some.inj hsame
    rw [hd.trace_id, Option.getD_some, hd.trace_at] at ht
    obtain rfl := Option.some.inj ht
    refine ⟨i, log, u, q, hd, hq, ?_⟩
    rw [hd.trace_id, Option.getD_some]
  · rintro ⟨i, log, t, q, hd, hq, rfl⟩
    have hid : log.traceId.getD [] = t.traceId := by rw [hd.trace_id, Option.getD_some]
    exact ⟨i, hd.index_at, log, hd.log_at, t, by rw [hid]; exact hd.trace_at, q, hq, by rw [hid]⟩

theorem validatedIds_nodup (h : validatedBatchRecoveryDecisionIds ids = .ok ()) : ids.Nodup := by
  simp only [validatedBatchRecoveryDecisionIds, seq_eq_ok, raiseIf_eq_ok, Decidable.not_not] at h
  exact h.2.2.2

theorem recoverMemoryRuns_later (h : Sound py s) (hs : s.TracesMapped)
    (hrun : recoverMemoryRuns py ids attributions s = .ok out s') (hk : s'.Keeps s'')
    (h'' : Sound py s'') :
    recoverMemoryRuns py ids attributions s'' = .ok out s'' ∧ ∀ c ∈ out, s''.Consistent c := by
  have hw := sound_effect h (recoverMemoryRuns_effect hrun)
  obtain ⟨hv, ha, rows, hrows, staged, hstage, rfl, rfl⟩ := recoverMemoryRuns_eq_ok.mp hrun
  have hn := validatedIds_nodup hv
  have hids : List.Forall₂ s.RowOf ids rows :=
    (collect_eq_ok.mp hrows).imp fun d row => rowOf_recovery h
  have hshape : ∀ row ∈ rows, ∃ d i log t q, s.Decided d i log t ∧
      resolvedMemoryRunRecovery t log (attributions.get? d) = .ok q ∧
      row = ⟨i, t.traceId, q.1, q.2, []⟩ := by
    intro row hrow
    obtain ⟨d, _, hd⟩ := collect_mem hrows hrow
    exact ⟨d, (recoveryRow_eq_ok h).mp hd⟩
  have hmapped : s.Mapped rows := by
    refine ⟨fun _ _ => hs _, fun row hrow => ?_, fun row hrow => ?_⟩
    all_goals
      obtain ⟨_, _, _, _, _, _, _, rfl⟩ := hshape row hrow
      simp
  have hr : ∀ row ∈ rows, row.evalResult.evaluated = true := by
    intro row hrow
    obtain ⟨_, _, _, _, _, _, hq, rfl⟩ := hshape row hrow
    exact evaluated_of_outcome (resolved_eq_ok hq).1
  refine ⟨?_, fun c hc => rows_consistent h hmapped hn hids hr hstage hw hk h'' hc⟩
  obtain ⟨staged', hstage', hout, hsame⟩ := rows_again h hmapped hn hids hr hstage hw hk h''
  refine recoverMemoryRuns_eq_ok.mpr ⟨hv, ha, rows, ?_, staged', hstage', hout.symm, hsame.symm⟩
  refine collect_again hrows fun d _ row hrow hrow' => ?_
  obtain ⟨i, log, t, q, hd, hq, hshape⟩ := (recoveryRow_eq_ok h).mp hrow'
  have hof : s.RowOf d row := by
    rw [hshape]
    exact ⟨log, t, hd, rfl⟩
  obtain ⟨log', t', hh⟩ := row_held h hmapped hn hids hr hstage hw hk h'' hrow hof
  have houtcome := hh.trace_again
  obtain ⟨hresult, hcaused, _⟩ := sealed_outcome hh.log_again
  refine (recoveryRow_eq_ok h'').mpr ⟨row.logIndex, log', t', q, hh.decided, ?_, ?_⟩
  · refine resolved_again hq ?_ ?_ ?_
    · rw [hresult, hshape]
    · rw [hcaused, hshape]
    · rw [result_of_candidate houtcome, hshape]
  · rw [← hh.trace_id, hshape]

theorem recoverReadyMemoryRuns_later (h : Sound py s) (hs : s.TracesMapped)
    (hrun : recoverReadyMemoryRuns py s = .ok out s') (hk : s'.Keeps s'') (h'' : Sound py s'') :
    ∀ c ∈ out, s''.Consistent c := by
  have hcases := (recoverReadyMemoryRuns_eq_ok h).mp hrun
  split_ifs at hcases
  · obtain ⟨rfl, _⟩ := hcases
    simp
  · exact (recoverMemoryRuns_later h hs hcases hk h'').2

theorem recoverMemoryRun_later {a : CompletionArguments} {c : MemoryRunCompletion} (h : Sound py s)
    (hs : s.TracesMapped) (ha : a.Mapped) (hrun : recoverMemoryRun py d b a s = .ok c s')
    (hk : s'.Keeps s'') (h'' : Sound py s'') :
    recoverMemoryRun py d b a s'' = .ok c s'' ∧ s''.Consistent c := by
  simp only [recoverMemoryRun, run_bind_eq_ok, run_inspect_eq_ok] at hrun ⊢
  obtain ⟨run, _, ⟨hrun, rfl⟩, hc⟩ := hrun
  obtain ⟨hconsistent, hid, j, hlater⟩ := completeMemoryRun_later h hc hk h''
  refine ⟨⟨run, s'', ⟨?_, rfl⟩, completeMemoryRun_again h hs ha hc hk h''⟩, hconsistent⟩
  obtain ⟨i, log, t, hd, hkt⟩ := exists_decided h hc
  rw [hkt] at hc
  obtain ⟨_, hcandidate, hsealed, _⟩ := (completeMemoryRun_eq_ok h hd).mp hc
  obtain ⟨hresult, hcaused, _⟩ := sealed_outcome hsealed
  simp only [Store.resolvedRun, Store.usageLogIndex, Store.usageLogAt, bind_eq_ok, exists_unit,
    demand_eq_ok, pure_eq_ok] at hrun ⊢
  obtain ⟨hlabel, i', hi', log', hlog', t', ht', q, hq, rfl⟩ := hrun
  have hkey : c.usageLog.traceId.getD [] = c.trace.traceId := by
    rw [hlater.trace_id, Option.getD_some]
  refine ⟨hlabel, j, hlater.index_at, c.usageLog, hlater.log_at, c.trace, ?_, q, ?_, ?_⟩
  · rw [hkey]
    exact hlater.trace_at
  · exact resolved_again hq hresult hcaused (result_of_candidate hcandidate)
  · rw [hkey, ← hid]

end Recovery

section Refusals

variable {r : EvalResult} {b : Bool} {values : List CompletionValue}

-- the trace is measured, and completing it so would make another trace of it
def Trace.Differs (t : Trace) (r : EvalResult) (values : List CompletionValue) : Prop :=
  t.evalResult.evaluated = true ∧ (completionCandidate t r values).pyEq t = false

-- the log is sealed with another outcome
def MemoryUsageLog.Differs (log : MemoryUsageLog) (r : EvalResult) (b : Bool) : Prop :=
  evaluated? log.evalResult = true ∧ ¬(log.evalResult = some r ∧ log.memoryCausedFailure = b)

theorem candidate_differs (ht : t.Differs r values) :
    completedTraceCandidate py t r values ≠ .ok t' := by
  intro h
  simp only [completedTraceCandidate, seq_eq_ok] at h
  rw [if_pos ht.1, if_neg (by rw [ht.2]; decide)] at h
  cases h.2

theorem sealed_differs (hl : log.Differs r b) : sealedUsageOutcomeCandidate log r b ≠ .ok log' := by
  intro h
  rw [sealedUsageOutcomeCandidate, if_pos hl.1, if_neg hl.2] at h
  cases h

theorem ownTrace_differs {row : CompletionRow} (hat : s.traces.get? row.traceId = some t)
    (ht : t.Differs row.evalResult row.values) : s.ownTrace py row ≠ .ok t' := by
  intro h
  obtain ⟨current, hc, hcandidate⟩ := bind_eq_ok.mp h
  rw [demand_eq_ok, hat] at hc
  obtain rfl := Option.some.inj hc
  exact candidate_differs ht hcandidate

theorem stage_refuses {rows : List CompletionRow} {row : CompletionRow} {staged : StagedCompletions}
    (hrow : row ∈ rows) (hd : s.Decided d row.logIndex log t) (hk : row.traceId = t.traceId)
    (hdiffers : t.Differs row.evalResult row.values ∨
      log.Differs row.evalResult row.memoryCausedFailure) :
    s.stageMemoryRunCompletions py rows ≠ .ok staged := by
  intro h
  simp only [Store.stageMemoryRunCompletions, bind_eq_ok] at h
  obtain ⟨inner, hinner, completed, _, sealed, hsealed, _⟩ := h
  rcases hdiffers with ht | hl
  · obtain ⟨_, hown, _⟩ := staged_of_accumulate hinner
    obtain ⟨u, hu⟩ := hown row hrow
    exact ownTrace_differs (hk ▸ hd.trace_at) ht hu
  · obtain ⟨q, _, hq⟩ := mem_of_forall₂ (collect_eq_ok.mp hsealed) hrow
    obtain ⟨log', _, hlog'⟩ := (stageLog_eq_ok hd).mp hq
    exact sealed_differs hl hlog'

end Refusals

section Operations

-- the lists of objects the caller hands over are lists of dictionaries
def Operation.Mapped : Operation → Prop
  | .completeTrace _ _ a => a.Mapped
  | .completeMemoryRun _ _ _ _ a => a.Mapped
  | .completeMemoryRuns results => ∀ r ∈ results, r.Mapped
  | .recoverMemoryRun _ _ a => a.Mapped
  | _ => True

def Operation.completes : Operation → Bool
  | .completeTrace .. | .completeMemoryRun .. | .completeMemoryRuns .. | .recoverMemoryRun ..
  | .recoverMemoryRuns .. | .recordDecisionOutcome .. => true
  | _ => false

-- the operation brings other data than the measured records it names hold
def Store.Contradicts (s : Store) : Operation → Prop
  | .completeTrace k r a => ∃ t, s.traces.get? k = some t ∧ t.Differs r a.provided
  | .completeMemoryRun k d r b a => (∃ t, s.traces.get? k = some t ∧ t.Differs r a.provided) ∨
      ∃ i log t, s.Decided d i log t ∧ log.Differs r b
  | .completeMemoryRuns results => ∃ m ∈ results, ∃ i log t, s.Decided m.decisionId i log t ∧
      (t.Differs m.evalResult (memoryRunResultCompletionValues m) ∨
        log.Differs m.evalResult m.memoryCausedFailure)
  | .recoverMemoryRun d b a => ∃ i log t, s.Decided d i log t ∧
      (t.Differs t.evalResult a.provided ∨
        evaluated? log.evalResult = true ∧ b = some (!log.memoryCausedFailure))
  | .recoverMemoryRuns ids attributions => ∃ d ∈ ids, ∃ i log t, s.Decided d i log t ∧
      evaluated? log.evalResult = true ∧ attributions.get? d = some (!log.memoryCausedFailure)
  | .recordDecisionOutcome d r b => ∃ i log t, s.Decided d i log t ∧ log.Differs r b
  | _ => False

theorem recordDecisionOutcome_eq_ok (h : Sound py s) {r : EvalResult} {b : Bool} :
    recordDecisionOutcome d r b s = .ok log' s' ↔ validateMeasuredOutcome r b = .ok () ∧
      ∃ i log t, s.Decided d i log t ∧ sealedUsageOutcomeCandidate log r b = .ok log' ∧
        s' = { s with usageLogs := s.usageLogs.set i log' } := by
  simp only [recordDecisionOutcome, run_bind_eq_ok, run_inspect_eq_ok, run_assign_eq_ok,
    run_pure_eq_ok, Store.sealedDecision, Store.usageLogIndex, Store.usageLogAt, bind_eq_ok,
    exists_unit, demand_eq_ok, pure_eq_ok]
  constructor
  · rintro ⟨_, _, ⟨⟨_, houtcome, i, hi, log, hlog, sealed, hsealed, _, _, rfl⟩, rfl⟩, _, rfl, rfl, rfl⟩
    obtain ⟨current, t, hd⟩ := decided_of_index h hi
    have hsame := hd.log_at
    rw [hlog] at hsame
    obtain rfl := Option.some.inj hsame
    exact ⟨houtcome, i, log, t, hd, hsealed, rfl⟩
  · rintro ⟨houtcome, i, log, t, hd, hsealed, rfl⟩
    have hvalid := hd.log_valid.seals (seals_of_candidate hsealed)
    have hlabel := validDecisionId hd.log_valid.1 (lit "decision outcome requires")
    rw [hd.decision_id] at hlabel
    refine ⟨⟨i, log'⟩, s, ⟨⟨hlabel, houtcome, i, hd.index_at, log, hd.log_at, log', hsealed,
      hvalid.2.1, hvalid.2.2, rfl⟩, rfl⟩, ?_⟩
    exact ⟨_, rfl, rfl, rfl⟩

theorem recordDecisionOutcome_again (h : Sound py s) {r : EvalResult} {b : Bool}
    (hrun : recordDecisionOutcome d r b s = .ok log' s') (hk : s'.Keeps s'') (h'' : Sound py s'') :
    recordDecisionOutcome d r b s'' = .ok log' s'' := by
  obtain ⟨houtcome, i, log, t, hd, hsealed, rfl⟩ := (recordDecisionOutcome_eq_ok h).mp hrun
  have hr := evaluated_of_outcome houtcome
  have hlog : evaluated? log'.evalResult = true := by
    rw [(sealed_outcome hsealed).1]
    exact hr
  have hat : (s.usageLogs.set i log')[i]? = some log' :=
    List.getElem?_set_self (List.getElem?_eq_some_iff.mp hd.log_at).1
  obtain ⟨t', hd'⟩ := decided_of_log h'' (hk.logs i log' hat hlog)
  have hdecision : log'.decisionId = d := by
    have hunmeasured : log'.unmeasured.decisionId = log.unmeasured.decisionId := by
      rw [(seals_of_candidate hsealed).1]
    exact hunmeasured.trans hd.decision_id
  rw [hdecision] at hd'
  refine (recordDecisionOutcome_eq_ok h'').mpr ⟨houtcome, i, log', t', hd', sealed_again hr hsealed, ?_⟩
  have hlogs : s''.usageLogs.set i log' = s''.usageLogs := by
    obtain ⟨hi, hget⟩ := List.getElem?_eq_some_iff.mp hd'.log_at
    rw [← hget]
    exact List.set_getElem_self hi
  rw [hlogs]

theorem exec_again {op : Operation} {reply : Reply} {env' : Env} (h : Sound py s)
    (hs : s.TracesMapped) (hm : op.Mapped) (hc : op.completes = true)
    (hrun : exec py env op s = .ok reply s') (hk : s'.Keeps s'') (h'' : Sound py s'') :
    exec py env' op s'' = .ok reply s'' := by
  cases op <;> simp only [Operation.completes, Bool.false_eq_true] at hc <;>
    simp only [exec, run_map_eq_ok] at hrun ⊢ <;> obtain ⟨a, hrun, rfl⟩ := hrun
  case completeTrace => exact ⟨a, completeTrace_again hs hm hrun hk, rfl⟩
  case completeMemoryRun => exact ⟨a, completeMemoryRun_again h hs hm hrun hk h'', rfl⟩
  case completeMemoryRuns => exact ⟨a, (completeMemoryRuns_later h hs hm hrun hk h'').1, rfl⟩
  case recoverMemoryRun => exact ⟨a, (recoverMemoryRun_later h hs hm hrun hk h'').1, rfl⟩
  case recoverMemoryRuns => exact ⟨a, (recoverMemoryRuns_later h hs hrun hk h'').1, rfl⟩
  case recordDecisionOutcome => exact ⟨a, recordDecisionOutcome_again h hrun hk h'', rfl⟩

theorem exec_consistent {op : Operation} {out : List MemoryRunCompletion} (h : Sound py s)
    (hs : s.TracesMapped) (hm : op.Mapped) (hrun : exec py env op s = .ok (.completions out) s')
    (hk : s'.Keeps s'') (h'' : Sound py s'') : ∀ c ∈ out, s''.Consistent c := by
  cases op <;> simp only [exec, run_map_eq_ok, reduceCtorEq, and_false, exists_false] at hrun <;>
    obtain ⟨a, hrun, hout⟩ := hrun <;> obtain rfl := Reply.completions.inj hout
  case completeMemoryRun =>
    intro c hc
    obtain rfl := List.mem_singleton.mp hc
    exact (completeMemoryRun_later h hrun hk h'').1
  case completeMemoryRuns => exact (completeMemoryRuns_later h hs hm hrun hk h'').2
  case recoverMemoryRun =>
    intro c hc
    obtain rfl := List.mem_singleton.mp hc
    exact (recoverMemoryRun_later h hs hm hrun hk h'').2
  case recoverMemoryRuns => exact (recoverMemoryRuns_later h hs hrun hk h'').2
  case recoverReadyMemoryRuns => exact recoverReadyMemoryRuns_later h hs hrun hk h''

theorem completeMemoryRun_contradicts {k : Str} {r : EvalResult} {b : Bool} {a : CompletionArguments}
    {c : MemoryRunCompletion} (h : Sound py s) (hc : s.Contradicts (.completeMemoryRun k d r b a)) :
    completeMemoryRun py k d r b a s ≠ .ok c s' := by
  intro hrun
  obtain ⟨i, log, t, hd, rfl⟩ := exists_decided h hrun
  obtain ⟨_, hcandidate, hsealed, _⟩ := (completeMemoryRun_eq_ok h hd).mp hrun
  rcases hc with ⟨u, hu, hdiffers⟩ | ⟨i', log', t', hd', hdiffers⟩
  · rw [hd.trace_at] at hu
    obtain rfl := Option.some.inj hu
    exact candidate_differs hdiffers hcandidate
  · obtain ⟨_, rfl, _⟩ := hd.unique hd'
    exact sealed_differs hdiffers hsealed

theorem recoverMemoryRun_contradicts {b : Option Bool} {a : CompletionArguments}
    {c : MemoryRunCompletion} (h : Sound py s) (hc : s.Contradicts (.recoverMemoryRun d b a)) :
    recoverMemoryRun py d b a s ≠ .ok c s' := by
  intro hrun
  simp only [recoverMemoryRun, run_bind_eq_ok, run_inspect_eq_ok] at hrun
  obtain ⟨run, _, ⟨hresolved, rfl⟩, hrun⟩ := hrun
  simp only [Store.resolvedRun, Store.usageLogIndex, Store.usageLogAt, bind_eq_ok, exists_unit,
    demand_eq_ok, pure_eq_ok] at hresolved
  obtain ⟨_, i', hi, log', hlog, t', ht, q, hq, rfl⟩ := hresolved
  obtain ⟨i, log, t, hd, hdiffers⟩ := hc
  rw [hd.index_at] at hi
  obtain rfl := Option.some.inj hi
  rw [hd.log_at] at hlog
  obtain rfl := Option.some.inj hlog
  rw [hd.trace_id, Option.getD_some, hd.trace_at] at ht
  obtain rfl := Option.some.inj ht
  refine completeMemoryRun_contradicts h ?_ hrun
  rcases hdiffers with hdiffers | ⟨hsealed, hb⟩
  · refine .inl ⟨t, ?_, ?_⟩
    · rw [hd.trace_id]
      exact hd.trace_at
    · rw [(resolved_eq_ok hq).2.2 hdiffers.1]
      exact hdiffers
  · refine .inr ⟨i, log, t, hd, hsealed, fun hsame => ?_⟩
    have hcaused := hsame.2
    rw [(resolved_eq_ok hq).2.1 _ hb] at hcaused
    simp at hcaused

theorem recoverMemoryRuns_contradicts {ids : List Str} {attributions : Dict Str Bool}
    {out : List MemoryRunCompletion} (h : Sound py s)
    (hc : s.Contradicts (.recoverMemoryRuns ids attributions)) :
    recoverMemoryRuns py ids attributions s ≠ .ok out s' := by
  intro hrun
  obtain ⟨_, _, rows, hrows, staged, hstage, _⟩ := recoverMemoryRuns_eq_ok.mp hrun
  obtain ⟨d, hmem, i, log, t, hd, hsealed, hb⟩ := hc
  obtain ⟨row, hrow, hr⟩ := mem_of_forall₂ (collect_eq_ok.mp hrows) hmem
  obtain ⟨i', log', t', q, hd', hq, hshape⟩ := (recoveryRow_eq_ok h).mp hr
  obtain ⟨rfl, rfl, rfl⟩ := hd.unique hd'
  have hindex : row.logIndex = i := by rw [hshape]
  refine stage_refuses hrow (hindex ▸ hd) (by rw [hshape]) (.inr ⟨hsealed, fun hsame => ?_⟩) hstage
  have hcaused := hsame.2
  rw [hshape, (resolved_eq_ok hq).2.1 _ hb] at hcaused
  simp at hcaused

theorem completeMemoryRuns_contradicts {results : List MemoryRunResult}
    {out : List MemoryRunCompletion} (h : Sound py s)
    (hc : s.Contradicts (.completeMemoryRuns results)) :
    completeMemoryRuns py results s ≠ .ok out s' := by
  intro hrun
  obtain ⟨_, rows, hrows, staged, hstage, _⟩ := completeMemoryRuns_eq_ok.mp hrun
  obtain ⟨m, hmem, i, log, t, hd, hdiffers⟩ := hc
  obtain ⟨row, hrow, hr⟩ := mem_of_forall₂ (collect_eq_ok.mp hrows) hmem
  obtain ⟨i', log', t', hd', hshape⟩ := (resultRow_eq_ok h).mp hr
  obtain ⟨rfl, rfl, rfl⟩ := hd.unique hd'
  have hindex : row.logIndex = i := by rw [hshape]
  refine stage_refuses hrow (hindex ▸ hd) (by rw [hshape]) ?_ hstage
  rw [hshape]
  exact hdiffers

theorem exec_contradicts {op : Operation} (h : Sound py s) (hc : s.Contradicts op) :
    ∃ e, exec py env op s = .error e s := by
  cases hrun : exec py env op s with
  | error e s' =>
    obtain rfl := exec_raised h hrun
    exact ⟨e, rfl⟩
  | ok reply s' =>
    exfalso
    cases op <;> simp only [Store.Contradicts] at hc <;> simp only [exec, run_map_eq_ok] at hrun <;>
      obtain ⟨_, hrun, _⟩ := hrun
    case completeTrace =>
      obtain ⟨hcompleted, _⟩ := completeTrace_eq_ok.mp hrun
      obtain ⟨_, _, t, ht, hcandidate⟩ := completedTrace_eq_ok.mp hcompleted
      obtain ⟨u, hu, hdiffers⟩ := hc
      rw [ht] at hu
      obtain rfl := Option.some.inj hu
      exact candidate_differs hdiffers hcandidate
    case completeMemoryRun => exact completeMemoryRun_contradicts h hc hrun
    case completeMemoryRuns => exact completeMemoryRuns_contradicts h hc hrun
    case recoverMemoryRun => exact recoverMemoryRun_contradicts h hc hrun
    case recoverMemoryRuns => exact recoverMemoryRuns_contradicts h hc hrun
    case recordDecisionOutcome =>
      obtain ⟨_, i, log, t, hd, hsealed, _⟩ := (recordDecisionOutcome_eq_ok h).mp hrun
      obtain ⟨i', log', t', hd', hdiffers⟩ := hc
      obtain ⟨_, rfl, _⟩ := hd.unique hd'
      exact sealed_differs hdiffers hsealed

end Operations

section Monotone

theorem trace_completion_monotone (h : Reachable py s) :
    (∀ calls, s.Keeps (runStore py s calls)) ∧
    (∀ env op reply s', s.TracesMapped → op.Mapped → op.completes = true →
      exec py env op s = .ok reply s' → ∀ env' calls,
        exec py env' op (runStore py s' calls) = .ok reply (runStore py s' calls)) ∧
    (∀ env op out s', s.TracesMapped → op.Mapped → exec py env op s = .ok (.completions out) s' →
      ∀ calls, ∀ c ∈ out, (runStore py s' calls).Consistent c) ∧
    ∀ env op, s.Contradicts op → ∃ e, exec py env op s = .error e s := by
  have hsound := h.sound
  have hafter : ∀ env op reply s', exec py env op s = .ok reply s' → ∀ calls,
      s'.Keeps (runStore py s' calls) ∧ Sound py (runStore py s' calls) := by
    intro env op reply s' hrun calls
    have hs' := sound_effects hsound (exec_effects hrun)
    exact ⟨run_keeps hs' calls, sound_effects hs' (runStore_effects hs' calls)⟩
  refine ⟨run_keeps hsound, ?_, ?_, fun env op => exec_contradicts hsound⟩
  · intro env op reply s' hs hm hc hrun env' calls
    obtain ⟨hk, h''⟩ := hafter env op reply s' hrun calls
    exact exec_again hsound hs hm hc hrun hk h''
  · intro env op out s' hs hm hrun calls
    obtain ⟨hk, h''⟩ := hafter env op _ s' hrun calls
    exact exec_consistent hsound hs hm hrun hk h''

def firstCompletion : Operation :=
  .completeMemoryRun (lit "trace_2") (lit "decision_1") .pass false {}

theorem firstCompletion_mapped : firstCompletion.Mapped := by
  intro l hl
  cases hl

set_option maxRecDepth 20000 in
theorem firstCompletion_accepted :
    returns (exec asciiPython sampleEnv firstCompletion sharedStore) = true := by decide +kernel

theorem trace_completion_monotone_shared : ∃ reply s',
    exec asciiPython sampleEnv firstCompletion sharedStore = .ok reply s' ∧
      ∀ calls, exec asciiPython sampleEnv firstCompletion (runStore asciiPython s' calls) =
        .ok reply (runStore asciiPython s' calls) := by
  obtain ⟨reply, s', hrun⟩ := exists_of_returns firstCompletion_accepted
  obtain ⟨_, hagain, _⟩ := trace_completion_monotone sharedStore_reachable
  exact ⟨reply, s', hrun, hagain sampleEnv firstCompletion reply s' sharedStore_tracesMapped
    firstCompletion_mapped rfl hrun sampleEnv⟩

-- the trace passes, and then the outcome of a decision taken on it is recorded as a failure
def splitOutcome : List (Env × Operation) :=
  [(sampleEnv, .completeTrace (lit "trace_2") .pass {}),
    (sampleEnv, .recordDecisionOutcome (lit "decision_1") .fail false)]

set_option maxRecDepth 20000 in
theorem sealed_apart_from_its_trace :
    Reachable asciiPython (runStore asciiPython sharedStore splitOutcome) ∧
      ((runStore asciiPython sharedStore splitOutcome).completion? (lit "decision_1")).map
        (fun c => (c.trace.evalResult, c.usageLog.evalResult)) = some (.pass, some .fail) :=
  ⟨sharedStore_reachable.run _, by decide +kernel⟩

end Monotone

end TraceBackedMemory
