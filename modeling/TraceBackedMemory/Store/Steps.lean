import TraceBackedMemory.Store.Effects

namespace TraceBackedMemory

open Text Raising

variable {py : Python} {env : Env} {s s' : Store}

section TraceSteps

def Store.withTrace (s : Store) (t : Trace) : Store :=
  { s with
    traces := s.traces.set t.traceId t
    traceIdsByRunId := s.traceIdsByRunId.set t.runId
      ((s.traceIdsByRunId.get? t.runId).getD [] ++ [t.traceId]) }

theorem recordTrace_eq_ok {t r : Trace} :
    recordTrace py env t s = .ok r s' ↔ validateTrace py t = .ok () ∧
      s.traces.get? t.traceId = none ∧ env.interrupted = false ∧ r = t ∧ s' = s.withTrace t := by
  simp only [recordTrace, Env.indexWrite, run_bind_eq_ok, run_inspect_eq_ok, run_assign_eq_ok,
    run_undoing_eq_ok, run_pure_eq_ok, Store.checkNewTrace, seq_eq_ok, raiseIf_eq_ok,
    Bool.not_eq_true, Dict.contains_eq_false]
  constructor
  · rintro ⟨⟨⟩, _, ⟨⟨hv, hn⟩, rfl⟩, ids, _, ⟨hids, rfl⟩, ⟨⟩, _, rfl, ⟨⟩, _, ⟨⟨⟩, _, ⟨hi, rfl⟩, rfl⟩, rfl,
      rfl⟩
    cases hids
    exact ⟨hv, hn, hi, rfl, rfl⟩
  · rintro ⟨hv, hn, hi, rfl, rfl⟩
    exact ⟨(), s, ⟨⟨hv, hn⟩, rfl⟩, _, s, ⟨rfl, rfl⟩, (), _, rfl, (), _, ⟨(), _, ⟨hi, rfl⟩, rfl⟩, rfl,
      rfl⟩

theorem recordTrace_effect {t r : Trace} (h : recordTrace py env t s = .ok r s') :
    Effect py s s' := by
  obtain ⟨hv, hn, _, _, rfl⟩ := recordTrace_eq_ok.mp h
  exact .recordTrace t hv hn

theorem completedTrace_spec {traceId : Str} {r : EvalResult} {a : CompletionArguments} {t' : Trace}
    (h : s.completedTrace py traceId r a = .ok t') :
    ∃ t, s.traces.get? traceId = some t ∧ t.Completes t' ∧
      (t' = t ∨ validateTrace py t' = .ok ()) := by
  simp only [Store.completedTrace, bind_eq_ok, exists_unit, demand_eq_ok] at h
  obtain ⟨_, _, t, ht, hc⟩ := h
  exact ⟨t, ht, completes_of_candidate hc⟩

theorem completeTrace_effect {traceId : Str} {r : EvalResult} {a : CompletionArguments} {t : Trace}
    (h : completeTrace py traceId r a s = .ok t s') : Effect py s s' := by
  simp only [completeTrace, run_bind_eq_ok, run_inspect_eq_ok, run_assign_eq_ok,
    run_pure_eq_ok] at h
  obtain ⟨t', _, ⟨hc, rfl⟩, ⟨⟩, _, rfl, rfl, rfl⟩ := h
  obtain ⟨t, ht, hcomp, hv⟩ := completedTrace_spec hc
  exact .complete _ _ (tracesCompleted_set ht hcomp hv)
    (List.forall₂_same.mpr fun log _ => .refl log)

theorem completedRun_spec {traceId decisionId : Str} {r : EvalResult} {b : Bool}
    {a : CompletionArguments} {run : CompletedRun}
    (h : s.completedRun py traceId decisionId r b a = .ok run) :
    (∃ t, s.traces.get? traceId = some t ∧ t.Completes run.trace ∧
      (run.trace = t ∨ validateTrace py run.trace = .ok ())) ∧
    ∃ log, s.usageLogs[run.logIndex]? = some log ∧ log.Seals run.log := by
  simp only [Store.completedRun, Store.usageLogAt, bind_eq_ok, exists_unit, demand_eq_ok,
    pure_eq_ok] at h
  obtain ⟨_, _, _, t, ht, i, _, log, hlog, _, t', hc, log', hseal, _, _, rfl⟩ := h
  exact ⟨⟨t, ht, completes_of_candidate hc⟩, log, hlog, seals_of_candidate hseal⟩

theorem completeMemoryRun_effect {traceId decisionId : Str} {r : EvalResult} {b : Bool}
    {a : CompletionArguments} {c : MemoryRunCompletion}
    (h : completeMemoryRun py traceId decisionId r b a s = .ok c s') : Effect py s s' := by
  simp only [completeMemoryRun, run_bind_eq_ok, run_inspect_eq_ok, run_assign_eq_ok,
    run_pure_eq_ok] at h
  obtain ⟨run, _, ⟨hc, rfl⟩, ⟨⟩, _, rfl, ⟨⟩, _, rfl, rfl, rfl⟩ := h
  obtain ⟨⟨t, ht, hcomp, hv⟩, log, hlog, hseal⟩ := completedRun_spec hc
  exact .complete _ _ (tracesCompleted_set ht hcomp hv) (seals_set hlog hseal)

theorem seals_setLogs {logs : List MemoryUsageLog} {sealed : List (Nat × MemoryUsageLog)}
    (hn : (sealed.map Prod.fst).Nodup)
    (h : ∀ p ∈ sealed, ∃ log, logs[p.1]? = some log ∧ log.Seals p.2) :
    List.Forall₂ MemoryUsageLog.Seals logs (setLogs logs sealed) := by
  induction sealed generalizing logs with
  | nil => exact List.forall₂_same.mpr fun log _ => .refl log
  | cons p sealed ih =>
    obtain ⟨log, hlog, hseal⟩ := h p (by simp)
    simp only [List.map_cons, List.nodup_cons] at hn
    have hrest : ∀ q ∈ sealed, ∃ log, (logs.set p.1 p.2)[q.1]? = some log ∧ log.Seals q.2 := by
      intro q hq
      have hne : p.1 ≠ q.1 := fun he => hn.1 (List.mem_map.mpr ⟨q, hq, he.symm⟩)
      rw [List.getElem?_set_ne hne]
      exact h q (List.mem_cons_of_mem _ hq)
    have htail := ih hn.2 hrest
    have hhead := seals_set hlog hseal
    rw [List.forall₂_iff_get] at hhead htail ⊢
    refine ⟨hhead.1.trans htail.1, ?_⟩
    intro i hi hi'
    exact Seals.trans_of_eq (hhead.2 i hi (hhead.1 ▸ hi)) (htail.2 i (hhead.1 ▸ hi) hi')

theorem stageTrace_spec {staged : StagedTraces} {p : Str × EvalResult} {q : Str × Trace}
    (h : s.stageTrace py staged p = .ok q) :
    ∃ t, s.traces.get? q.1 = some t ∧ t.Completes q.2 ∧
      (q.2 = t ∨ validateTrace py q.2 = .ok ()) := by
  simp only [Store.stageTrace, bind_eq_ok, demand_eq_ok, pure_eq_ok] at h
  obtain ⟨t, ht, t', hc, rfl⟩ := h
  exact ⟨t, ht, completes_of_candidate hc⟩

theorem stageLog_spec {row : CompletionRow} {q : Nat × MemoryUsageLog}
    (h : s.stageLog row = .ok q) : ∃ log, s.usageLogs[q.1]? = some log ∧ log.Seals q.2 := by
  simp only [Store.stageLog, Store.usageLogAt, bind_eq_ok, exists_unit, demand_eq_ok,
    pure_eq_ok] at h
  obtain ⟨log, hlog, log', hseal, _, _, rfl⟩ := h
  exact ⟨log, hlog, seals_of_candidate hseal⟩

theorem stageMemoryRunCompletions_spec {rows : List CompletionRow} {staged : StagedCompletions}
    (h : s.stageMemoryRunCompletions py rows = .ok staged) :
    TracesCompleted py s.traces (s.traces.update staged.traces.entries) ∧
      List.Forall₂ MemoryUsageLog.Seals s.usageLogs
        (setLogs s.usageLogs staged.logs.entries) := by
  simp only [Store.stageMemoryRunCompletions, bind_eq_ok, pure_eq_ok] at h
  obtain ⟨rows', _, completed, hcompleted, sealed, hsealed, _, _, rfl⟩ := h
  constructor
  · refine tracesCompleted_update fun k t' hk => ?_
    obtain ⟨p, _, hp⟩ := collect_mem hcompleted (Dict.mem_of_get?_ofList hk)
    exact stageTrace_spec hp
  · refine seals_setLogs (Dict.ofList sealed).nodup fun q hq => ?_
    have hget := Dict.get?_eq_some.mpr (show (q.1, q.2) ∈ (Dict.ofList sealed).entries from hq)
    obtain ⟨row, _, hrow⟩ := collect_mem hsealed (Dict.mem_of_get?_ofList hget)
    exact stageLog_spec hrow

theorem writeCompletions_effect {staged : StagedCompletions} {u : Unit}
    (ht : TracesCompleted py s.traces (s.traces.update staged.traces.entries))
    (hl : List.Forall₂ MemoryUsageLog.Seals s.usageLogs (setLogs s.usageLogs staged.logs.entries))
    (h : writeCompletions staged s = .ok u s') : Effect py s s' := by
  simp only [writeCompletions, run_bind_eq_ok, run_assign_eq_ok] at h
  obtain ⟨⟨⟩, _, rfl, rfl⟩ := h
  exact .complete _ _ ht hl

theorem completeMemoryRuns_effect {results : List MemoryRunResult} {l : List MemoryRunCompletion}
    (h : completeMemoryRuns py results s = .ok l s') : Effect py s s' := by
  simp only [completeMemoryRuns, run_bind_eq_ok, run_inspect_eq_ok, run_pure_eq_ok] at h
  obtain ⟨staged, _, ⟨hc, rfl⟩, ⟨⟩, _, hw, _, rfl⟩ := h
  simp only [Store.stagedResults, bind_eq_ok, exists_unit] at hc
  obtain ⟨_, rows, _, hstage⟩ := hc
  obtain ⟨ht, hl⟩ := stageMemoryRunCompletions_spec hstage
  exact writeCompletions_effect ht hl hw

theorem recoverMemoryRun_effect {decisionId : Str} {b : Option Bool} {a : CompletionArguments}
    {c : MemoryRunCompletion} (h : recoverMemoryRun py decisionId b a s = .ok c s') :
    Effect py s s' := by
  simp only [recoverMemoryRun, run_bind_eq_ok, run_inspect_eq_ok] at h
  obtain ⟨run, _, ⟨_, rfl⟩, hc⟩ := h
  exact completeMemoryRun_effect hc

theorem recoverMemoryRuns_effect {decisionIds : List Str} {attributions : Dict Str Bool}
    {l : List MemoryRunCompletion}
    (h : recoverMemoryRuns py decisionIds attributions s = .ok l s') : Effect py s s' := by
  simp only [recoverMemoryRuns, run_bind_eq_ok, run_inspect_eq_ok, run_pure_eq_ok] at h
  obtain ⟨staged, _, ⟨hc, rfl⟩, ⟨⟩, _, hw, _, rfl⟩ := h
  simp only [Store.stagedRecoveries, bind_eq_ok, exists_unit] at hc
  obtain ⟨_, _, rows, _, hstage⟩ := hc
  obtain ⟨ht, hl⟩ := stageMemoryRunCompletions_spec hstage
  exact writeCompletions_effect ht hl hw

theorem recoverReadyMemoryRuns_effects {l : List MemoryRunCompletion}
    (h : recoverReadyMemoryRuns py s = .ok l s') : Effects py s s' := by
  simp only [recoverReadyMemoryRuns, run_bind_eq_ok, run_inspect_eq_ok] at h
  obtain ⟨ready, _, ⟨_, rfl⟩, hr⟩ := h
  split at hr
  · obtain ⟨_, rfl⟩ := run_pure_eq_ok.mp hr
    exact .refl
  · exact .single (recoverMemoryRuns_effect hr)

end TraceSteps

section MemorySteps

theorem addFailureCase_eq_ok {c r : FailureCase} :
    addFailureCase c s = .ok r s' ↔ s.checkNewFailureCase c = .ok () ∧ r = c ∧
      s' = { s with failureCases := s.failureCases.set c.caseId c } := by
  simp only [addFailureCase, run_bind_eq_ok, run_inspect_eq_ok, run_assign_eq_ok, run_pure_eq_ok]
  constructor
  · rintro ⟨⟨⟩, _, ⟨hc, rfl⟩, ⟨⟩, _, rfl, rfl, rfl⟩
    exact ⟨hc, rfl, rfl⟩
  · rintro ⟨hc, rfl, rfl⟩
    exact ⟨(), s, ⟨hc, rfl⟩, (), _, rfl, rfl, rfl⟩

theorem addFailureCase_effect {c r : FailureCase} (h : addFailureCase c s = .ok r s') :
    Effect py s s' := by
  obtain ⟨hc, _, rfl⟩ := addFailureCase_eq_ok.mp h
  exact .addCase c hc

theorem storedRecord_eq_ok {α : Type} {records : Dict Str α} {k label : Str} {a : α}
    (h : storedRecord records k label = .ok a) : records.get? k = some a := by
  simp only [storedRecord, bind_eq_ok, exists_unit, demand_eq_ok] at h
  exact h.2.2

theorem reviewedFailureCase_spec {caseId : Str} {r : CaseReview} {c' : FailureCase}
    (h : s.reviewedFailureCase env caseId r = .ok c') :
    ∃ c, s.failureCases.get? caseId = some c ∧ CaseRewritten c c' := by
  simp only [Store.reviewedFailureCase, transitionReviewFailureCase, bind_eq_ok, exists_unit,
    raiseIf_eq_ok, ne_eq, Decidable.not_not, pure_eq_ok] at h
  obtain ⟨c, hc, _, hr, hv, rfl⟩ := h
  obtain ⟨hdraft, _, _, _, _, _, _, _, _, _, rfl⟩ := hr
  exact ⟨c, storedRecord_eq_ok hc, hdraft, rfl, rfl, rfl, hv⟩

theorem reviewFailureCase_effect {caseId : Str} {r : CaseReview} {c : FailureCase}
    (h : reviewFailureCase env caseId r s = .ok c s') : Effect py s s' := by
  simp only [reviewFailureCase, run_bind_eq_ok, run_inspect_eq_ok, run_assign_eq_ok,
    run_pure_eq_ok] at h
  obtain ⟨c', _, ⟨hr, rfl⟩, ⟨⟩, _, rfl, rfl, rfl⟩ := h
  obtain ⟨c, hc, hw⟩ := reviewedFailureCase_spec hr
  exact .rewriteCase caseId c c' hc hw

theorem verifiedFailureCase_spec {caseId : Str} {v : CaseVerification} {c' : FailureCase}
    (h : s.verifiedFailureCase caseId v = .ok c') :
    ∃ c, s.failureCases.get? caseId = some c ∧ CaseRewritten c c' := by
  simp only [Store.verifiedFailureCase, transitionVerifyFailureCase, bind_eq_ok, exists_unit,
    raiseIf_eq_ok, ne_eq, Decidable.not_not, pure_eq_ok] at h
  obtain ⟨c, hc, _, hr, hv, rfl⟩ := h
  obtain ⟨hdraft, _, _, _, _, _, rfl⟩ := hr
  exact ⟨c, storedRecord_eq_ok hc, hdraft, rfl, rfl, rfl, hv⟩

theorem verifyFailureCase_effect {caseId : Str} {v : CaseVerification} {c : FailureCase}
    (h : verifyFailureCase caseId v s = .ok c s') : Effect py s s' := by
  simp only [verifyFailureCase, run_bind_eq_ok, run_inspect_eq_ok, run_assign_eq_ok,
    run_pure_eq_ok] at h
  obtain ⟨c', _, ⟨hr, rfl⟩, ⟨⟩, _, rfl, rfl, rfl⟩ := h
  obtain ⟨c, hc, hw⟩ := verifiedFailureCase_spec hr
  exact .rewriteCase caseId c c' hc hw

theorem get?_update_dependentLessons (lessons : Dict Str Lesson) (caseId k : Str) :
    (lessons.update (dependentLessons lessons caseId).entries).get? k =
      (lessons.get? k).map (fun l =>
        if l.sourceCaseId = caseId ∧ l.status = .active then transitionLessonToObsolete l else l) := by
  rw [dependentLessons, Dict.get?_update_selected]
  simp only [decide_eq_true_eq]

theorem obsoleted_case (c : FailureCase) (caseId : Str) (hc : s.failureCases.get? caseId = some c) :
    Obsoleted s (s.failureCases.set caseId (transitionFailureCaseToObsolete c))
      (s.lessons.update (dependentLessons s.lessons caseId).entries) s.projectPolicies where
  cases_at k := by
    by_cases hk : k = caseId
    · subst hk
      exact .inr ⟨c, hc, by simp⟩
    · exact .inl (Dict.get?_set_of_ne _ _ hk)
  lessons_at k := by
    rw [get?_update_dependentLessons]
    cases hl : s.lessons.get? k with
    | none => exact .inl rfl
    | some l =>
      by_cases hd : l.sourceCaseId = caseId ∧ l.status = .active
      · exact .inr ⟨l, rfl, by simp [hd]⟩
      · exact .inl (by simp [hd])
  policies_at k := .inl rfl
  cascade k l' hk hactive := by
    rw [get?_update_dependentLessons, Option.map_eq_some_iff] at hk
    obtain ⟨l, hl, hl'⟩ := hk
    split at hl'
    · subst hl'
      cases hactive
    · rename_i hd
      subst hl'
      exact Dict.get?_set_of_ne _ _ fun he => hd ⟨he, hactive⟩

theorem obsoleteFailureCase_effects {caseId : Str} {r : FailureCase}
    (h : obsoleteFailureCase py caseId s = .ok r s') : Effects py s s' := by
  simp only [obsoleteFailureCase, run_bind_eq_ok, run_inspect_eq_ok] at h
  obtain ⟨c, _, ⟨hc, rfl⟩, h⟩ := h
  split at h
  · obtain ⟨_, rfl⟩ := run_pure_eq_ok.mp h
    exact .refl
  · simp only [run_bind_eq_ok, run_inspect_eq_ok, run_assign_eq_ok, run_pure_eq_ok] at h
    obtain ⟨lessons, _, ⟨hl, rfl⟩, ⟨⟩, _, rfl, ⟨⟩, _, rfl, rfl, rfl⟩ := h
    simp only [Store.obsoletedDependents, bind_eq_ok, exists_unit, pure_eq_ok] at hl
    obtain ⟨_, _, rfl⟩ := hl
    exact .single (.obsolete _ _ _ (obsoleted_case c caseId (storedRecord_eq_ok hc)))

theorem addLesson_eq_ok {l r : Lesson} :
    addLesson py l s = .ok r s' ↔ s.validatedLessonCandidate py l s.lessons = .ok () ∧ r = l ∧
      s' = { s with lessons := s.lessons.set l.lessonId l } := by
  simp only [addLesson, run_bind_eq_ok, run_inspect_eq_ok, run_assign_eq_ok, run_pure_eq_ok]
  constructor
  · rintro ⟨⟨⟩, _, ⟨hc, rfl⟩, ⟨⟩, _, rfl, rfl, rfl⟩
    exact ⟨hc, rfl, rfl⟩
  · rintro ⟨hc, rfl, rfl⟩
    exact ⟨(), s, ⟨hc, rfl⟩, (), _, rfl, rfl, rfl⟩

theorem addLesson_effect {l r : Lesson} (h : addLesson py l s = .ok r s') : Effect py s s' := by
  obtain ⟨hc, _, rfl⟩ := addLesson_eq_ok.mp h
  exact .addLesson l hc

theorem obsoleteLesson_effects {lessonId : Str} {r : Lesson}
    (h : obsoleteLesson py lessonId s = .ok r s') : Effects py s s' := by
  simp only [obsoleteLesson, run_bind_eq_ok, run_inspect_eq_ok] at h
  obtain ⟨l, _, ⟨hl, rfl⟩, h⟩ := h
  split at h
  · obtain ⟨_, rfl⟩ := run_pure_eq_ok.mp h
    exact .refl
  · simp only [run_bind_eq_ok, run_inspect_eq_ok, run_assign_eq_ok, run_pure_eq_ok] at h
    obtain ⟨⟨⟩, _, ⟨_, rfl⟩, ⟨⟩, _, rfl, rfl, rfl⟩ := h
    refine .single (.obsolete s.failureCases _ s.projectPolicies ⟨fun _ => .inl rfl, ?_,
      fun _ => .inl rfl, fun _ _ _ _ => rfl⟩)
    intro k
    by_cases hk : k = lessonId
    · subst hk
      exact .inr ⟨l, storedRecord_eq_ok hl, by simp⟩
    · exact .inl (Dict.get?_set_of_ne _ _ hk)

theorem addProjectPolicy_eq_ok {p r : ProjectPolicy} :
    addProjectPolicy py p s = .ok r s' ↔ s.checkNewProjectPolicy py p = .ok () ∧ r = p ∧
      s' = { s with projectPolicies := s.projectPolicies.set p.policyId p } := by
  simp only [addProjectPolicy, run_bind_eq_ok, run_inspect_eq_ok, run_assign_eq_ok, run_pure_eq_ok]
  constructor
  · rintro ⟨⟨⟩, _, ⟨hc, rfl⟩, ⟨⟩, _, rfl, rfl, rfl⟩
    exact ⟨hc, rfl, rfl⟩
  · rintro ⟨hc, rfl, rfl⟩
    exact ⟨(), s, ⟨hc, rfl⟩, (), _, rfl, rfl, rfl⟩

theorem addProjectPolicy_effect {p r : ProjectPolicy} (h : addProjectPolicy py p s = .ok r s') :
    Effect py s s' := by
  obtain ⟨hc, _, rfl⟩ := addProjectPolicy_eq_ok.mp h
  exact .addPolicy p hc

theorem obsoleteProjectPolicy_effects {policyId : Str} {r : ProjectPolicy}
    (h : obsoleteProjectPolicy py policyId s = .ok r s') : Effects py s s' := by
  simp only [obsoleteProjectPolicy, run_bind_eq_ok, run_inspect_eq_ok] at h
  obtain ⟨p, _, ⟨hp, rfl⟩, h⟩ := h
  split at h
  · obtain ⟨_, rfl⟩ := run_pure_eq_ok.mp h
    exact .refl
  · simp only [run_bind_eq_ok, run_inspect_eq_ok, run_assign_eq_ok, run_pure_eq_ok] at h
    obtain ⟨⟨⟩, _, ⟨_, rfl⟩, ⟨⟩, _, rfl, rfl, rfl⟩ := h
    refine .single (.obsolete s.failureCases s.lessons _ ⟨fun _ => .inl rfl, fun _ => .inl rfl, ?_,
      fun _ _ _ _ => rfl⟩)
    intro k
    by_cases hk : k = policyId
    · subst hk
      exact .inr ⟨p, storedRecord_eq_ok hp, by simp⟩
    · exact .inl (Dict.get?_set_of_ne _ _ hk)

theorem obsoleted_memories (requests : List MemoryObsolescenceRequest) :
    Obsoleted s (s.failureCases.update (s.obsoletedMemories requests).cases.entries)
      (s.lessons.update (s.obsoletedMemories requests).lessons.entries)
      (s.projectPolicies.update (s.obsoletedMemories requests).policies.entries) where
  cases_at k := by
    simp only [Store.obsoletedMemories, Dict.get?_update_selected]
    cases hc : s.failureCases.get? k with
    | none => exact .inl rfl
    | some c =>
      by_cases hk : decide (k ∈ requestedIds .failureCase requests) = true ∧ c.status ≠ .obsolete
      · exact .inr ⟨c, rfl, by simp [hk.1, hk.2]⟩
      · refine .inl ?_
        simp only [Option.map_some, Option.some.injEq]
        split_ifs with h₁ h₂
        · rfl
        · exact absurd ⟨h₁, h₂⟩ hk
        · rfl
  lessons_at k := by
    simp only [Store.obsoletedMemories, Dict.get?_update_selected]
    cases hl : s.lessons.get? k with
    | none => exact .inl rfl
    | some l =>
      simp only [Option.map_some, Option.some.injEq]
      split_ifs
      · exact .inl rfl
      · exact .inr ⟨l, rfl, rfl⟩
      · exact .inl rfl
  policies_at k := by
    simp only [Store.obsoletedMemories, Dict.get?_update_selected]
    cases hp : s.projectPolicies.get? k with
    | none => exact .inl rfl
    | some p =>
      simp only [Option.map_some, Option.some.injEq]
      split_ifs
      · exact .inl rfl
      · exact .inr ⟨p, rfl, rfl⟩
      · exact .inl rfl
  cascade k l' hk hactive := by
    simp only [Store.obsoletedMemories, Dict.get?_update_selected, Option.map_eq_some_iff] at hk ⊢
    obtain ⟨l, hl, hl'⟩ := hk
    split_ifs at hl' with hsel hobs
    · subst hl'
      rw [hactive] at hobs
      cases hobs
    · subst hl'
      cases hactive
    · subst hl'
      simp only [decide_eq_true_eq, not_or, not_and] at hsel
      have hnot : l.sourceCaseId ∉ s.cascadingCaseIds (requestedIds .failureCase requests) :=
        fun hin => hsel.2 hin hactive
      cases hc : s.failureCases.get? l.sourceCaseId with
      | none => rfl
      | some c =>
        simp only [Option.map_some, Option.some.injEq]
        split_ifs with h₁ h₂
        · rfl
        · refine absurd (List.mem_filter.mpr ⟨by simpa using h₁, ?_⟩) hnot
          simpa [hc] using h₂
        · rfl

theorem obsoleteMemories_effect {requests : List MemoryObsolescenceRequest} {l : List Memory}
    (h : obsoleteMemories py requests s = .ok l s') : Effect py s s' := by
  simp only [obsoleteMemories, run_bind_eq_ok, run_inspect_eq_ok, run_assign_eq_ok] at h
  obtain ⟨o, _, ⟨ho, rfl⟩, ⟨⟩, _, rfl, ⟨⟩, _, rfl, ⟨⟩, _, rfl, _, rfl⟩ := h
  simp only [Store.checkObsolescence, bind_eq_ok, exists_unit, pure_eq_ok] at ho
  obtain ⟨_, _, _, _, _, rfl⟩ := ho
  exact .obsolete _ _ _ (obsoleted_memories requests)

theorem stagedLessons_effects {lessons : List Lesson} {staged final : Dict Str Lesson}
    (h : accumulate (stageLesson py s) staged lessons = .ok final) :
    Effects py { s with lessons := staged }
      { s with lessons := staged.update (lessons.map (fun l => (l.lessonId, l))) } := by
  induction lessons generalizing staged with
  | nil => exact .refl
  | cons l lessons ih =>
    simp only [accumulate, bind_eq_ok, stageLesson, exists_unit, pure_eq_ok] at h
    obtain ⟨_, ⟨hc, _, rfl⟩, hr⟩ := h
    exact .head (.addLesson (s := { s with lessons := staged }) l hc) (ih hr)

theorem loadLessonsYaml_effects {source : Except Exn Str} {maxLessons : Option Nat}
    {l : List Lesson} (h : loadLessonsYaml py source maxLessons s = .ok l s') :
    Effects py s s' := by
  simp only [loadLessonsYaml, run_bind_eq_ok, run_inspect_eq_ok, run_assign_eq_ok,
    run_pure_eq_ok] at h
  obtain ⟨lessons, _, ⟨hl, rfl⟩, ⟨⟩, _, rfl, _, rfl⟩ := h
  simp only [Store.stagedLessons, bind_eq_ok, pure_eq_ok] at hl
  obtain ⟨_, _, lessons', _, final, hf, rfl⟩ := hl
  exact stagedLessons_effects hf

end MemorySteps

section GateSteps

theorem prepareMemory_effect {a : PrepareArguments} {r : MemoryGateRequest}
    (h : prepareMemory py a s = .ok r s') :
    s.preparedRequest py a = .ok r ∧ s' = { s with
      nextGateRequestNumber := s.nextGateRequestNumber + 1
      pendingGateRequests := s.pendingGateRequests.set r.requestId r } := by
  simp only [prepareMemory, run_bind_eq_ok, run_inspect_eq_ok, run_assign_eq_ok,
    run_pure_eq_ok] at h
  obtain ⟨r', _, ⟨hr, rfl⟩, ⟨⟩, _, rfl, ⟨⟩, _, rfl, rfl, rfl⟩ := h
  exact ⟨hr, rfl⟩

theorem appendUsageLog_eq_ok {log : MemoryUsageLog} {u : Unit} :
    appendUsageLog env log s = .ok u s' ↔ env.interrupted = false ∧
      ∃ next, s.nextNumbers log = .ok next ∧ s' = s.appended log next := by
  simp only [appendUsageLog, Env.indexWrite, run_bind_eq_ok, run_inspect_eq_ok, run_assign_eq_ok,
    run_undoing_eq_ok, raiseIf_eq_ok, Bool.not_eq_true]
  constructor
  · rintro ⟨next, _, ⟨hn, rfl⟩, i, _, ⟨hi, rfl⟩, ⟨⟩, _, rfl, ⟨⟩, _, ⟨⟨⟩, _, ⟨he, rfl⟩, rfl⟩, ⟨⟩, _,
      rfl, rfl⟩
    cases hi
    exact ⟨he, next, hn, rfl⟩
  · rintro ⟨he, next, hn, rfl⟩
    exact ⟨next, s, ⟨hn, rfl⟩, _, s, ⟨rfl, rfl⟩, (), _, rfl, (), _, ⟨(), _, ⟨he, rfl⟩, rfl⟩, (), _,
      rfl, rfl⟩

theorem appendUsageLog_effect {log : MemoryUsageLog} {u : Unit}
    (h : appendUsageLog env log s = .ok u s') :
    ∃ next, s.nextNumbers log = .ok next ∧ s' = s.appended log next :=
  (appendUsageLog_eq_ok.mp h).2

theorem popPending_effect {k : Str} {u : Unit} (h : popPending k s = .ok u s') :
    s' = { s with pendingGateRequests := s.pendingGateRequests.erase k } := by
  simp only [popPending, run_bind_eq_ok, run_inspect_eq_ok, run_assign_eq_ok] at h
  obtain ⟨_, _, ⟨_, rfl⟩, rfl⟩ := h
  rfl

theorem newUsageLog_spec {now : Str} {t : Trace} {c : MemoryContext} {candidates : List MemoryItem}
    {d : MemoryDecision} {blocked : Dict Str Str} {o : LogOutcome} {requestId : Option Str}
    {log : MemoryUsageLog}
    (h : s.newUsageLog now t c candidates d blocked o requestId = .ok log) :
    s.LogValid log ∧ log.requestId = requestId ∧
      log.candidateMemoryIds = candidates.map MemoryItem.memoryId ∧
      log.usedMemoryIds = (if d.useMemory then d.allowedMemoryIds else []) ∧
      log.blockedMemoryIds = d.blockedMemoryIds ∧
      log.decisionId = decisionIdText s.nextDecisionNumber := by
  simp only [Store.newUsageLog, bind_eq_ok, exists_unit, pure_eq_ok] at h
  obtain ⟨h₁, h₂, h₃, rfl⟩ := h
  exact ⟨⟨h₁, h₂, h₃⟩, rfl, rfl, rfl, rfl, rfl⟩

theorem finalization_log {a : FinalizeArguments} {f : Finalization}
    (h : s.finalization py env a = .ok f) :
    s.checkPending a.request = .ok () ∧ s.LogValid f.log ∧
      f.log.requestId = some a.request.requestId ∧
      f.log.decisionId = decisionIdText s.nextDecisionNumber := by
  simp only [Store.finalization, bind_eq_ok, exists_unit, pure_eq_ok] at h
  obtain ⟨_, _, _, hp, _, t, _, _, _, candidates, _, g, _, d, _, p, _, snippet, _, log, hlog,
    rfl⟩ := h
  obtain ⟨hv, hr, _, _, _, hd⟩ := newUsageLog_spec hlog
  exact ⟨hp, hv, hr, hd⟩

theorem finalizeMemory_spec {a : FinalizeArguments} {g : GatedMemoryResult}
    (h : finalizeMemory py env a s = .ok g s') :
    ∃ f next, s.finalization py env a = .ok f ∧ s.nextNumbers f.log = .ok next ∧
      s' = (s.appended f.log next).closed a.request.requestId ∧ g = f.result := by
  simp only [finalizeMemory, run_bind_eq_ok, run_inspect_eq_ok, run_assign_eq_ok,
    run_pure_eq_ok] at h
  obtain ⟨f, _, ⟨hf, rfl⟩, ⟨⟩, _, happ, ⟨⟩, _, hpop, ⟨⟩, _, rfl, ⟨⟩, _, rfl, ⟨⟩, _, rfl, rfl, rfl⟩ := h
  obtain ⟨next, hn, rfl⟩ := appendUsageLog_effect happ
  cases popPending_effect hpop
  exact ⟨f, next, hf, hn, rfl, rfl⟩

theorem finalizeMemory_effect {a : FinalizeArguments} {g : GatedMemoryResult}
    (h : finalizeMemory py env a s = .ok g s') : Effect py s s' := by
  obtain ⟨f, next, hf, hn, rfl, _⟩ := finalizeMemory_spec h
  obtain ⟨hp, hv, hr, _⟩ := finalization_log hf
  exact .finalize a.request f.log next hp hv hr hn

theorem cancelMemoryRequest_effect {r : MemoryGateRequest} {u : Unit}
    (h : cancelMemoryRequest r s = .ok u s') : Effect py s s' := by
  simp only [cancelMemoryRequest, run_bind_eq_ok, run_inspect_eq_ok] at h
  obtain ⟨⟨⟩, _, ⟨_, rfl⟩, hpop⟩ := h
  cases popPending_effect hpop
  exact .cancel r.requestId

theorem loggedDecision_log {a : LogArguments} {log : MemoryUsageLog}
    (h : s.loggedDecision py env a = .ok log) :
    s.LogValid log ∧ log.requestId = none ∧
      log.decisionId = decisionIdText s.nextDecisionNumber := by
  simp only [Store.loggedDecision, bind_eq_ok, exists_unit] at h
  obtain ⟨_, _, _, _, t, _, _, candidates, _, g, _, d, _, _, p, _, hlog⟩ := h
  obtain ⟨hv, hr, _, _, _, hd⟩ := newUsageLog_spec hlog
  exact ⟨hv, hr, hd⟩

theorem logDecision_spec {a : LogArguments} {log : MemoryUsageLog}
    (h : logDecision py env a s = .ok log s') :
    ∃ next, s.loggedDecision py env a = .ok log ∧ s.nextNumbers log = .ok next ∧
      s' = s.appended log next := by
  simp only [logDecision, run_bind_eq_ok, run_inspect_eq_ok, run_pure_eq_ok] at h
  obtain ⟨log', _, ⟨hl, rfl⟩, ⟨⟩, _, happ, rfl, rfl⟩ := h
  obtain ⟨next, hn, rfl⟩ := appendUsageLog_effect happ
  exact ⟨next, hl, hn, rfl⟩

theorem logDecision_effect {a : LogArguments} {log : MemoryUsageLog}
    (h : logDecision py env a s = .ok log s') : Effect py s s' := by
  obtain ⟨next, hl, hn, rfl⟩ := logDecision_spec h
  obtain ⟨hv, hr, _⟩ := loggedDecision_log hl
  exact .log log next hv hr hn

theorem recordDecisionOutcome_effect {decisionId : Str} {r : EvalResult} {b : Bool}
    {log : MemoryUsageLog} (h : recordDecisionOutcome decisionId r b s = .ok log s') :
    Effect py s s' := by
  simp only [recordDecisionOutcome, run_bind_eq_ok, run_inspect_eq_ok, run_assign_eq_ok,
    run_pure_eq_ok] at h
  obtain ⟨d, _, ⟨hd, rfl⟩, ⟨⟩, _, rfl, _, rfl⟩ := h
  simp only [Store.sealedDecision, Store.usageLogAt, bind_eq_ok, exists_unit, demand_eq_ok,
    pure_eq_ok] at hd
  obtain ⟨_, _, i, _, current, hcur, sealed, hseal, _, _, rfl⟩ := hd
  exact .complete _ _ (TracesCompleted.refl py s.traces) (seals_set hcur (seals_of_candidate hseal))

end GateSteps

theorem exec_effects {op : Operation} {r : Reply} (h : exec py env op s = .ok r s') :
    Effects py s s' := by
  cases op <;> simp only [exec, run_map_eq_ok] at h <;> obtain ⟨a, h, _⟩ := h
  case recordTrace => exact .single (recordTrace_effect h)
  case completeTrace => exact .single (completeTrace_effect h)
  case completeMemoryRun => exact .single (completeMemoryRun_effect h)
  case completeMemoryRuns => exact .single (completeMemoryRuns_effect h)
  case recoverMemoryRun => exact .single (recoverMemoryRun_effect h)
  case recoverMemoryRuns => exact .single (recoverMemoryRuns_effect h)
  case recoverReadyMemoryRuns => exact recoverReadyMemoryRuns_effects h
  case addFailureCase => exact .single (addFailureCase_effect h)
  case reviewFailureCase => exact .single (reviewFailureCase_effect h)
  case verifyFailureCase => exact .single (verifyFailureCase_effect h)
  case obsoleteFailureCase => exact obsoleteFailureCase_effects h
  case addLesson => exact .single (addLesson_effect h)
  case obsoleteLesson => exact obsoleteLesson_effects h
  case addProjectPolicy => exact .single (addProjectPolicy_effect h)
  case obsoleteProjectPolicy => exact obsoleteProjectPolicy_effects h
  case obsoleteMemories => exact .single (obsoleteMemories_effect h)
  case loadLessonsYaml => exact loadLessonsYaml_effects h
  case prepareMemory =>
    obtain ⟨hr, rfl⟩ := prepareMemory_effect h
    exact .single (.prepare _ _ hr)
  case finalizeMemory => exact .single (finalizeMemory_effect h)
  case cancelMemoryRequest => exact .single (cancelMemoryRequest_effect h)
  case logDecision => exact .single (logDecision_effect h)
  case recordDecisionOutcome => exact .single (recordDecisionOutcome_effect h)

end TraceBackedMemory
