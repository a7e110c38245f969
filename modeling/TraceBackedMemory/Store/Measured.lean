import TraceBackedMemory.Store.BatchOrder

namespace TraceBackedMemory

open Text Raising

variable {py : Python} {s s' s'' : Store} {env : Env}

section Traces

theorem Trace.Completes.trans {t t' t'' : Trace} (h : t.Completes t') (h' : t'.Completes t'') :
    t.Completes t'' := by
  refine ⟨h'.1.trans h.1, fun hm => ?_⟩
  have hsame := h.2 hm
  rw [hsame] at h'
  exact h'.2 hm

theorem effect_extends (he : Effect py s s') : TracesExtend s.traces s'.traces := by
  cases he with
  | recordTrace t _ hn => exact tracesExtend_set hn
  | complete _ _ ht _ => exact ht.extend
  | _ => exact tracesExtend_refl _

theorem effects_extends (he : Effects py s s') : TracesExtend s.traces s'.traces := by
  induction he with
  | refl => exact tracesExtend_refl _
  | tail _ he ih =>
    intro k t ht
    obtain ⟨t', ht', hcomp⟩ := ih k t ht
    obtain ⟨t'', ht'', hcomp'⟩ := effect_extends he k t' ht'
    exact ⟨t'', ht'', hcomp.trans hcomp'⟩

theorem measured_kept (he : Effects py s s') {k : Str} {t : Trace} (ht : s.traces.get? k = some t)
    (hm : t.evalResult.evaluated = true) : s'.traces.get? k = some t := by
  obtain ⟨t', ht', hcomp⟩ := effects_extends he k t ht
  rw [ht', hcomp.2 hm]

theorem result_of_candidate {t t' : Trace} {r : EvalResult} {values : List CompletionValue}
    (h : completedTraceCandidate py t r values = .ok t') :
    t'.evalResult = r := by
  simp only [completedTraceCandidate, seq_eq_ok] at h
  obtain ⟨_, h⟩ := h
  split at h
  · split at h
    · rename_i hsame
      cases h
      simp only [Trace.pyEq, Bool.and_eq_true, decide_eq_true_eq] at hsame
      have hresult := hsame.1.1.2.1
      rw [evalResult_completionCandidate] at hresult
      exact hresult.symm
    · cases h
  · simp only [seq_eq_ok, pure_eq_ok] at h
    obtain ⟨_, rfl⟩ := h
    exact evalResult_completionCandidate

theorem measured_of_candidate {t t' : Trace} {r : EvalResult} {values : List CompletionValue}
    (hr : r.evaluated = true) (h : completedTraceCandidate py t r values = .ok t') :
    t'.evalResult.evaluated = true := by
  rw [result_of_candidate h]
  exact hr

end Traces

section Logs

-- a usage log that carries an outcome stays where it is, as it is
def Store.LogsKept (s s' : Store) : Prop :=
  ∀ (i : Nat) (log : MemoryUsageLog), s.usageLogs[i]? = some log →
    evaluated? log.evalResult = true → s'.usageLogs[i]? = some log

def KeepsLogs {α : Type} (m : Op α) : Prop := ∀ s a s', m s = .ok a s' → s.LogsKept s'

theorem Store.LogsKept.refl (s : Store) : s.LogsKept s := fun _ _ h _ => h

theorem Store.LogsKept.trans (h : s.LogsKept s') (h' : s'.LogsKept s'') : s.LogsKept s'' :=
  fun i log hlog hm => h' i log (h i log hlog hm) hm

theorem keepsLogs_inspect {α : Type} (f : Store → Except Exn α) : KeepsLogs (inspect f) := by
  intro s a s' h
  obtain ⟨_, rfl⟩ := run_inspect_eq_ok.mp h
  exact .refl _

theorem keepsLogs_pure {α : Type} (a : α) : KeepsLogs (pure a : Op α) := by
  intro s b s' h
  obtain ⟨_, rfl⟩ := run_pure_eq_ok.mp h
  exact .refl _

theorem keepsLogs_assign {f : Store → Store} (h : ∀ s, (f s).usageLogs = s.usageLogs) :
    KeepsLogs (assign f) := by
  intro s a s' hr i log hlog _
  rw [run_assign_eq_ok.mp hr, h s]
  exact hlog

theorem KeepsLogs.bind {α β : Type} {m : Op α} {f : α → Op β} (hm : KeepsLogs m)
    (hf : ∀ a, KeepsLogs (f a)) : KeepsLogs (m >>= f) := by
  intro s b s' h
  obtain ⟨a, s₁, ha, hb⟩ := run_bind_eq_ok.mp h
  exact (hm s a s₁ ha).trans (hf a s₁ b s' hb)

theorem keepsLogs_update {α β : Type} {f : α → Store → Store} {m : α → Op β}
    {g : Store → Except Exn α} (hf : ∀ a s, (f a s).usageLogs = s.usageLogs)
    (hm : ∀ a, KeepsLogs (m a)) :
    KeepsLogs (inspect g >>= fun a => assign (f a) >>= fun _ => m a) :=
  (keepsLogs_inspect g).bind fun a => (keepsLogs_assign (hf a)).bind fun _ => hm a

theorem sealed_eq {log log' : MemoryUsageLog} {r : EvalResult} {b : Bool}
    (h : sealedUsageOutcomeCandidate log r b = .ok log') (hm : evaluated? log.evalResult = true) :
    log' = log := by
  rw [sealedUsageOutcomeCandidate, if_pos hm] at h
  split at h
  · simp only [seq_eq_ok, pure_eq_ok] at h
    exact h.2.symm
  · cases h

theorem logsKept_set {current log : MemoryUsageLog} {r : EvalResult} {b : Bool} {i : Nat}
    (hi : s.usageLogs[i]? = some current) (hsealed : sealedUsageOutcomeCandidate current r b = .ok log)
    (hs' : s'.usageLogs = s.usageLogs.set i log) : s.LogsKept s' := by
  intro j other hj hm
  rw [hs']
  by_cases hij : i = j
  · subst hij
    rw [hi] at hj
    cases hj
    rw [sealed_eq hsealed hm]
    exact List.getElem?_set_self (List.getElem?_eq_some_iff.mp hi).1
  · rw [List.getElem?_set_ne hij]
    exact hj

theorem stageLog_sealed {row : CompletionRow} {q : Nat × MemoryUsageLog} (h : s.stageLog row = .ok q) :
    ∃ current r b, s.usageLogs[q.1]? = some current ∧
      sealedUsageOutcomeCandidate current r b = .ok q.2 := by
  simp only [Store.stageLog, Store.usageLogAt, bind_eq_ok, exists_unit, demand_eq_ok,
    pure_eq_ok] at h
  obtain ⟨current, hcurrent, log, hsealed, _, _, rfl⟩ := h
  exact ⟨current, _, _, hcurrent, hsealed⟩

theorem logsKept_written {rows : List CompletionRow} {staged : StagedCompletions}
    (h : s.stageMemoryRunCompletions py rows = .ok staged) : s.LogsKept (s.written staged) := by
  simp only [Store.stageMemoryRunCompletions, bind_eq_ok, pure_eq_ok] at h
  obtain ⟨_, _, _, _, sealed, hsealed, _, _, rfl⟩ := h
  have horigin : ∀ j log, (Dict.ofList sealed).get? j = some log → ∃ current r b,
      s.usageLogs[j]? = some current ∧ sealedUsageOutcomeCandidate current r b = .ok log := by
    intro j log hj
    obtain ⟨row, _, hrow⟩ := collect_mem hsealed (Dict.mem_of_get?_ofList hj)
    exact stageLog_sealed hrow
  intro i log hlog hm
  have hbound : ∀ p ∈ (Dict.ofList sealed).entries, p.1 < s.usageLogs.length := by
    intro p hp
    obtain ⟨current, _, _, hcurrent, _⟩ := horigin p.1 p.2 (Dict.get?_eq_some.mpr hp)
    exact (List.getElem?_eq_some_iff.mp hcurrent).1
  have hget : (setLogs s.usageLogs (Dict.ofList sealed).entries)[i]? =
      ((Dict.ofList sealed).get? i).or s.usageLogs[i]? :=
    getElem?_setLogs (Dict.ofList sealed).nodup hbound i
  refine hget.trans ?_
  cases hi : (Dict.ofList sealed).get? i with
  | none => rw [Option.none_or, hlog]
  | some other =>
    obtain ⟨current, _, _, hcurrent, hother⟩ := horigin i other hi
    rw [hlog] at hcurrent
    cases hcurrent
    rw [sealed_eq hother hm, Option.some_or]

end Logs

section Operations

theorem keepsLogs_completeMemoryRun (traceId d : Str) (r : EvalResult) (b : Bool)
    (a : CompletionArguments) : KeepsLogs (completeMemoryRun py traceId d r b a) := by
  intro s c s' h
  simp only [completeMemoryRun, run_bind_eq_ok, run_inspect_eq_ok, run_assign_eq_ok,
    run_pure_eq_ok] at h
  obtain ⟨run, _, ⟨hc, rfl⟩, ⟨⟩, _, rfl, ⟨⟩, _, rfl, _, rfl⟩ := h
  simp only [Store.completedRun, Store.usageLogAt, bind_eq_ok, exists_unit, demand_eq_ok,
    pure_eq_ok] at hc
  obtain ⟨_, _, _, _, _, i, _, log, hlog, _, _, _, log', hsealed, _, _, rfl⟩ := hc
  exact logsKept_set hlog hsealed rfl

theorem keepsLogs_completeMemoryRuns (results : List MemoryRunResult) :
    KeepsLogs (completeMemoryRuns py results) := by
  intro s out s' h
  obtain ⟨_, rows, _, staged, hstage, _, rfl⟩ := completeMemoryRuns_eq_ok.mp h
  exact logsKept_written hstage

theorem keepsLogs_recoverMemoryRuns (ids : List Str) (attributions : Dict Str Bool) :
    KeepsLogs (recoverMemoryRuns py ids attributions) := by
  intro s out s' h
  obtain ⟨_, _, rows, _, staged, hstage, _, rfl⟩ := recoverMemoryRuns_eq_ok.mp h
  exact logsKept_written hstage

theorem keepsLogs_recoverReadyMemoryRuns : KeepsLogs (recoverReadyMemoryRuns py) := by
  refine (keepsLogs_inspect _).bind fun ready => ?_
  split
  · exact keepsLogs_pure _
  · exact keepsLogs_recoverMemoryRuns _ _

theorem keepsLogs_recordDecisionOutcome (d : Str) (r : EvalResult) (b : Bool) :
    KeepsLogs (recordDecisionOutcome d r b) := by
  intro s log s' h
  simp only [recordDecisionOutcome, run_bind_eq_ok, run_inspect_eq_ok, run_assign_eq_ok,
    run_pure_eq_ok] at h
  obtain ⟨sealed, _, ⟨hc, rfl⟩, ⟨⟩, _, rfl, _, rfl⟩ := h
  simp only [Store.sealedDecision, Store.usageLogAt, bind_eq_ok, exists_unit, demand_eq_ok,
    pure_eq_ok] at hc
  obtain ⟨_, _, i, _, current, hcurrent, log', hsealed, _, _, rfl⟩ := hc
  exact logsKept_set hcurrent hsealed rfl

theorem keepsLogs_appendUsageLog (log : MemoryUsageLog) : KeepsLogs (appendUsageLog env log) := by
  intro s u s' h
  obtain ⟨next, _, rfl⟩ := appendUsageLog_effect h
  intro i other hi _
  exact List.getElem?_append_left (List.getElem?_eq_some_iff.mp hi).1 ▸ hi

theorem keepsLogs_obsoleteFailureCase (caseId : Str) : KeepsLogs (obsoleteFailureCase py caseId) := by
  refine (keepsLogs_inspect _).bind fun current => ?_
  split
  · exact keepsLogs_pure _
  · exact keepsLogs_update (fun _ _ => by rfl) fun _ =>
      (keepsLogs_assign fun _ => by rfl).bind fun _ => keepsLogs_pure _

theorem keepsLogs_obsoleteLesson (lessonId : Str) : KeepsLogs (obsoleteLesson py lessonId) := by
  refine (keepsLogs_inspect _).bind fun current => ?_
  split
  · exact keepsLogs_pure _
  · exact keepsLogs_update (fun _ _ => by rfl) fun _ => keepsLogs_pure _

theorem keepsLogs_obsoleteProjectPolicy (policyId : Str) :
    KeepsLogs (obsoleteProjectPolicy py policyId) := by
  refine (keepsLogs_inspect _).bind fun current => ?_
  split
  · exact keepsLogs_pure _
  · exact keepsLogs_update (fun _ _ => by rfl) fun _ => keepsLogs_pure _

theorem keepsLogs_obsoleteMemories (requests : List MemoryObsolescenceRequest) :
    KeepsLogs (obsoleteMemories py requests) := by
  intro s a s' h
  simp only [obsoleteMemories, run_bind_eq_ok, run_inspect_eq_ok, run_assign_eq_ok] at h
  obtain ⟨_, _, ⟨_, rfl⟩, _, _, rfl, _, _, rfl, _, _, rfl, _, rfl⟩ := h
  exact fun _ _ hi _ => hi

theorem keepsLogs_popPending (r : Str) : KeepsLogs (popPending r) :=
  (keepsLogs_inspect _).bind fun _ => keepsLogs_assign fun _ => by rfl

theorem keepsLogs_finalizeMemory (a : FinalizeArguments) : KeepsLogs (finalizeMemory py env a) := by
  refine (keepsLogs_inspect _).bind fun f => (keepsLogs_appendUsageLog _).bind fun _ => ?_
  refine (keepsLogs_popPending _).bind fun _ => ?_
  refine (keepsLogs_assign fun _ => by rfl).bind fun _ => (keepsLogs_assign fun _ => by rfl).bind fun _ => ?_
  exact (keepsLogs_assign fun _ => by rfl).bind fun _ => keepsLogs_pure _

theorem exec_keepsLogs (op : Operation) : KeepsLogs (exec py env op) := by
  intro s reply s' h
  cases op <;> simp only [exec, run_map_eq_ok] at h <;> obtain ⟨a, h, _⟩ := h
  case recordTrace =>
    obtain ⟨_, _, _, _, rfl⟩ := recordTrace_eq_ok.mp h
    exact fun _ _ hi _ => hi
  case completeTrace => exact keepsLogs_update (fun _ _ => by rfl) (fun _ => keepsLogs_pure _) _ _ _ h
  case completeMemoryRun => exact keepsLogs_completeMemoryRun _ _ _ _ _ _ _ _ h
  case completeMemoryRuns => exact keepsLogs_completeMemoryRuns _ _ _ _ h
  case recoverMemoryRun =>
    exact (keepsLogs_inspect _).bind (fun _ => keepsLogs_completeMemoryRun _ _ _ _ _) _ _ _ h
  case recoverMemoryRuns => exact keepsLogs_recoverMemoryRuns _ _ _ _ _ h
  case recoverReadyMemoryRuns => exact keepsLogs_recoverReadyMemoryRuns _ _ _ h
  case addFailureCase => exact keepsLogs_update (fun _ _ => by rfl) (fun _ => keepsLogs_pure _) _ _ _ h
  case reviewFailureCase => exact keepsLogs_update (fun _ _ => by rfl) (fun _ => keepsLogs_pure _) _ _ _ h
  case verifyFailureCase => exact keepsLogs_update (fun _ _ => by rfl) (fun _ => keepsLogs_pure _) _ _ _ h
  case obsoleteFailureCase => exact keepsLogs_obsoleteFailureCase _ _ _ _ h
  case addLesson => exact keepsLogs_update (fun _ _ => by rfl) (fun _ => keepsLogs_pure _) _ _ _ h
  case obsoleteLesson => exact keepsLogs_obsoleteLesson _ _ _ _ h
  case addProjectPolicy => exact keepsLogs_update (fun _ _ => by rfl) (fun _ => keepsLogs_pure _) _ _ _ h
  case obsoleteProjectPolicy => exact keepsLogs_obsoleteProjectPolicy _ _ _ _ h
  case obsoleteMemories => exact keepsLogs_obsoleteMemories _ _ _ _ h
  case loadLessonsYaml => exact keepsLogs_update (fun _ _ => by rfl) (fun _ => keepsLogs_pure _) _ _ _ h
  case prepareMemory =>
    exact keepsLogs_update (fun _ _ => by rfl)
      (fun _ => (keepsLogs_assign fun _ => by rfl).bind fun _ => keepsLogs_pure _) _ _ _ h
  case finalizeMemory => exact keepsLogs_finalizeMemory _ _ _ _ h
  case cancelMemoryRequest =>
    exact (keepsLogs_inspect _).bind (fun _ => keepsLogs_popPending _) _ _ _ h
  case logDecision =>
    exact (keepsLogs_inspect _).bind
      (fun _ => (keepsLogs_appendUsageLog _).bind fun _ => keepsLogs_pure _) _ _ _ h
  case recordDecisionOutcome => exact keepsLogs_recordDecisionOutcome _ _ _ _ _ _ h

theorem run_keepsLogs (h : Sound py s) (calls : List (Env × Operation)) :
    s.LogsKept (runStore py s calls) := by
  induction calls generalizing s with
  | nil => exact .refl s
  | cons c calls ih =>
    have hstep : s.LogsKept (stepStore py s c) := by
      unfold stepStore
      cases hr : exec py c.1 c.2 s with
      | ok r s' => exact exec_keepsLogs c.2 s r s' hr
      | error e s' =>
        cases exec_raised h hr
        exact .refl s
    exact hstep.trans (ih (sound_effects h (stepStore_effects h c)))

end Operations

end TraceBackedMemory
