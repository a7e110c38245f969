import TraceBackedMemory.Store.BatchOrder
import TraceBackedMemory.Store.Measured

namespace TraceBackedMemory

open Text Raising

variable {py : Python} {s s' : Store} {d : Str} {i : Nat} {log : MemoryUsageLog} {t : Trace}

section Readiness

-- one side is measured, and the other can follow without asking anybody
def Ready (t : Trace) (log : MemoryUsageLog) : Prop :=
  (t.evalResult = .pass ∧ evaluated? log.evalResult = false) ∨
    (t.evalResult.evaluated = false ∧ evaluated? log.evalResult = true)

instance (t : Trace) (log : MemoryUsageLog) : Decidable (Ready t log) :=
  inferInstanceAs (Decidable (_ ∨ _))

def readyOutcome (t : Trace) (log : MemoryUsageLog) : EvalResult × Bool :=
  if t.evalResult.evaluated then (t.evalResult, false)
  else (log.evalResult.getD .unknown, log.memoryCausedFailure)

def Store.readyLog (s : Store) (log : MemoryUsageLog) : Bool :=
  match s.traces.get? (log.traceId.getD []) with
  | some t => decide (Ready t log)
  | none => false

def Store.readyIds (s : Store) : List Str :=
  ((s.usageLogs.insertionSort (fun a b => a.decisionId ≤ b.decisionId)).filter s.readyLog).map
    MemoryUsageLog.decisionId

theorem readyLog_eq (hd : s.Decided d i log t) : s.readyLog log = decide (Ready t log) := by
  rw [Store.readyLog, hd.trace_id, Option.getD_some, hd.trace_at]

theorem readyAction_eq (a : EvalResult) (b : Option EvalResult) (k : Str) :
    ((match memoryRunAuditStatus a b with
      | .traceOnly => pure (if a = .pass then some k else none)
      | .decisionOnly => pure (some k)
      | _ => pure none) : Except Exn (Option Str)) =
      .ok (if (a = .pass ∧ evaluated? b = false) ∨ (a.evaluated = false ∧ evaluated? b = true) then
        some k else none) := by
  cases a <;> cases b with
  | none => rfl
  | some b => cases b <;> rfl

theorem recoverReady_eq (hd : s.Decided d i log t) :
    s.recoverReady log = .ok (if Ready t log then some log.decisionId else none) := by
  have ht : s.traces.get? (log.traceId.getD []) = some t := by
    rw [hd.trace_id]
    exact hd.trace_at
  rw [Store.recoverReady, ht]
  exact readyAction_eq t.evalResult log.evalResult log.decisionId

theorem collect_eq_map {α β : Type} {f : α → Except Exn β} {g : α → β} {l : List α}
    (h : ∀ a ∈ l, f a = .ok (g a)) : collect f l = .ok (l.map g) := by
  rw [collect_eq_ok, List.forall₂_map_right_iff, List.forall₂_same]
  exact h

theorem recoverReady_ids (h : Sound py s) :
    ∃ ready, collect s.recoverReady (s.usageLogs.insertionSort (fun a b => a.decisionId ≤ b.decisionId)) =
      .ok ready ∧ ready.filterMap id = s.readyIds := by
  have hmem : ∀ log ∈ s.usageLogs.insertionSort (fun a b => a.decisionId ≤ b.decisionId),
      s.recoverReady log = .ok (if s.readyLog log = true then some log.decisionId else none) := by
    intro log hlog
    obtain ⟨i, hi⟩ := List.getElem?_of_mem ((List.perm_insertionSort _ _).mem_iff.mp hlog)
    obtain ⟨t, hd⟩ := decided_of_log h hi
    rw [recoverReady_eq hd, readyLog_eq hd]
    simp only [decide_eq_true_eq]
  refine ⟨_, collect_eq_map hmem, ?_⟩
  rw [Store.readyIds]
  generalize s.usageLogs.insertionSort (fun a b => a.decisionId ≤ b.decisionId) = logs
  induction logs with
  | nil => rfl
  | cons log logs ih =>
    by_cases hl : s.readyLog log = true <;> simp_all

theorem mem_readyIds (h : Sound py s) :
    d ∈ s.readyIds ↔ ∃ i log t, s.Decided d i log t ∧ Ready t log := by
  simp only [Store.readyIds, List.mem_map, List.mem_filter, (List.perm_insertionSort _ _).mem_iff]
  constructor
  · rintro ⟨log, ⟨hlog, hready⟩, rfl⟩
    obtain ⟨i, hi⟩ := List.getElem?_of_mem hlog
    obtain ⟨t, hd⟩ := decided_of_log h hi
    rw [readyLog_eq hd, decide_eq_true_eq] at hready
    exact ⟨i, log, t, hd, hready⟩
  · rintro ⟨i, log, t, hd, hready⟩
    refine ⟨log, ⟨List.mem_of_getElem? hd.log_at, ?_⟩, hd.decision_id⟩
    rw [readyLog_eq hd, decide_eq_true_eq]
    exact hready

theorem nodup_decisionIds (h : Sound py s) : (s.usageLogs.map MemoryUsageLog.decisionId).Nodup := by
  have hkeys := s.usageLogIndexes.nodup
  rw [h.logs.index] at hkeys
  have hmap : (logIndexEntries s.usageLogs).map Prod.fst = s.usageLogs.map MemoryUsageLog.decisionId := by
    rw [logIndexEntries, List.map_map]
    conv_rhs => rw [← List.zipIdx_map_fst 0 s.usageLogs, List.map_map]
    rfl
  rwa [hmap] at hkeys

theorem nodup_readyIds (h : Sound py s) : s.readyIds.Nodup := by
  have hperm := (List.perm_insertionSort (fun a b : MemoryUsageLog => a.decisionId ≤ b.decisionId)
    s.usageLogs).map MemoryUsageLog.decisionId
  exact (hperm.nodup_iff.mpr (nodup_decisionIds h)).sublist (List.filter_sublist.map _)

theorem length_readyIds : s.readyIds.length = (s.usageLogs.filter s.readyLog).length := by
  rw [Store.readyIds, List.length_map]
  exact ((List.perm_insertionSort _ _).filter _).length_eq

end Readiness

section Rows

variable {rows : List CompletionRow}

theorem failing_of_caused (h : validateUsageLog log = .ok ()) (hc : log.memoryCausedFailure = true) :
    log.evalResult = some .fail ∨ log.evalResult = some .error := by
  simp only [validateUsageLog, bind_eq_ok, exists_unit, raiseIf_eq_ok] at h
  obtain ⟨_, _, _, _, _, _, _, _, _, _, _, _, _, _, _, hcaused, _⟩ := h
  by_contra hne
  exact hcaused ⟨hc, .inr hne⟩

theorem validateUsageLog_passed (h : validateUsageLog log = .ok ()) : validateUsageLog
    { log with
      evalResult := some .pass
      memoryCausedFailure := false } = .ok () := by
  simp only [validateUsageLog, bind_eq_ok, exists_unit, raiseIf_eq_ok] at h ⊢
  obtain ⟨h₁, h₂, h₃, h₄, h₅, h₆, h₇, h₈, h₉, h₁₀, h₁₁, h₁₂, h₁₃, h₁₄, h₁₅, _, hrest⟩ := h
  exact ⟨h₁, h₂, h₃, h₄, h₅, h₆, h₇, h₈, h₉, h₁₀, h₁₁, h₁₂, h₁₃, h₁₄, h₁₅, by simp, hrest⟩

theorem outcome_measured (hready : Ready t log) (hv : validateUsageLog log = .ok ()) :
    validateMeasuredOutcome (readyOutcome t log).1 (readyOutcome t log).2 = .ok () := by
  rcases hready with ⟨hpass, _⟩ | ⟨hopen, hmeasured⟩
  · rw [readyOutcome, hpass]
    rfl
  · rw [readyOutcome, hopen]
    have hcaused := failing_of_caused hv
    cases hr : log.evalResult with
    | none =>
      rw [hr] at hmeasured
      cases hmeasured
    | some r =>
      rw [hr] at hmeasured hcaused
      simp only [validateMeasuredOutcome, validateMeasuredEvalResult, seq_eq_ok, raiseIf_eq_ok,
        Bool.not_eq_false]
      refine ⟨hmeasured, fun hbad => ?_⟩
      obtain ⟨hc, hfailing⟩ := hbad
      rcases hcaused hc with hfail | hfail <;> cases hfail <;> cases hfailing

theorem status_of_ready (hready : Ready t log) :
    memoryRunAuditStatus t.evalResult log.evalResult =
      if t.evalResult.evaluated then .traceOnly else .decisionOnly := by
  rcases hready with ⟨hpass, hopen⟩ | ⟨hopen, hmeasured⟩
  · rw [memoryRunAuditStatus, hopen, hpass]
    rfl
  · rw [memoryRunAuditStatus, hopen, hmeasured]
    rfl

theorem resolved_ready (hready : Ready t log) (hv : validateUsageLog log = .ok ()) :
    resolvedMemoryRunRecovery t log none = .ok (readyOutcome t log) := by
  have houtcome := outcome_measured hready hv
  have hstatus := status_of_ready hready
  rcases hready with ⟨hpass, _⟩ | ⟨hopen, _⟩
  · rw [resolvedMemoryRunRecovery, hstatus, readyOutcome, hpass]
    rfl
  · have hout : readyOutcome t log = (log.evalResult.getD .unknown, log.memoryCausedFailure) := by
      rw [readyOutcome, hopen]
      rfl
    rw [hout] at houtcome ⊢
    rw [resolvedMemoryRunRecovery, hstatus, hopen]
    exact seq_eq_ok.mpr ⟨houtcome, rfl⟩

def readyRow (i : Nat) (t : Trace) (log : MemoryUsageLog) : CompletionRow :=
  ⟨i, t.traceId, (readyOutcome t log).1, (readyOutcome t log).2, []⟩

theorem recoveryRow_ready (hd : s.Decided d i log t) (hready : Ready t log) :
    s.recoveryRow Dict.empty d = .ok (readyRow i t log) := by
  simp only [Store.recoveryRow, Store.usageLogIndex, Store.usageLogAt, bind_eq_ok, demand_eq_ok,
    pure_eq_ok]
  refine ⟨i, hd.index_at, log, hd.log_at, t, ?_, readyOutcome t log, ?_, ?_⟩
  · rw [hd.trace_id]
    exact hd.trace_at
  · exact resolved_ready hready hd.log_valid.1
  · rw [hd.trace_id]
    rfl

theorem rowOf_recovery (h : Sound py s) {attributions : Dict Str Bool} {row : CompletionRow}
    (hr : s.recoveryRow attributions d = .ok row) : s.RowOf d row := by
  simp only [Store.recoveryRow, Store.usageLogIndex, Store.usageLogAt, bind_eq_ok, demand_eq_ok,
    pure_eq_ok] at hr
  obtain ⟨i, hi, log, hlog, _, _, _, _, rfl⟩ := hr
  obtain ⟨log', t, hd⟩ := decided_of_index h hi
  have hsame := hd.log_at
  rw [hlog] at hsame
  cases hsame
  refine ⟨log, t, hd, ?_⟩
  rw [hd.trace_id]
  rfl

theorem sealed_ready (hready : Ready t log) (hv : validateUsageLog log = .ok ()) :
    ∃ log', sealedUsageOutcomeCandidate log (readyOutcome t log).1 (readyOutcome t log).2 =
      .ok log' ∧ log'.evalResult = some (readyOutcome t log).1 := by
  rcases hready with ⟨hpass, hopen⟩ | ⟨hopen, hmeasured⟩
  · have hout : readyOutcome t log = (.pass, false) := by
      rw [readyOutcome, hpass]
      rfl
    rw [hout]
    refine ⟨{ log with
      evalResult := some .pass
      memoryCausedFailure := false }, ?_, rfl⟩
    rw [sealedUsageOutcomeCandidate, if_neg (by simp [hopen])]
    exact seq_eq_ok.mpr ⟨validateUsageLog_passed hv, rfl⟩
  · have hout : readyOutcome t log = (log.evalResult.getD .unknown, log.memoryCausedFailure) := by
      rw [readyOutcome, hopen]
      rfl
    cases hr : log.evalResult with
    | none =>
      rw [hr] at hmeasured
      cases hmeasured
    | some r =>
      rw [hout, hr]
      refine ⟨log, ?_, hr⟩
      rw [sealedUsageOutcomeCandidate, if_pos hmeasured, if_pos ⟨hr, rfl⟩]
      exact seq_eq_ok.mpr ⟨hv, rfl⟩

theorem completed_ready (hs : s.TracesMapped) (h : Sound py s) (hd : s.Decided d i log t)
    (hready : Ready t log) :
    ∃ t', s.ownTrace py (readyRow i t log) = .ok t' ∧
      t'.evalResult = (readyOutcome t log).1 := by
  have hv := (h.records.traces_at _ _ hd.trace_at).2
  have hc := comparable_of_valid (hs _ _ hd.trace_at) hv
  have hcandidate : completionCandidate t (readyOutcome t log).1 [] =
      { t with evalResult := (readyOutcome t log).1 } := rfl
  have hvalid : validateTrace py (completionCandidate t (readyOutcome t log).1 []) = .ok () := by
    refine validateTrace_of_slots fun f => ⟨t, (identity_completionCandidate _ _ _).symm, hv, ?_⟩
    exact (slot_candidate_of_not_mem (by simp)).symm
  have hown : ∀ t', completedTraceCandidate py t (readyOutcome t log).1 [] = .ok t' →
      s.ownTrace py (readyRow i t log) = .ok t' := by
    intro t' ht'
    exact bind_eq_ok.mpr ⟨t, demand_eq_ok.mpr hd.trace_at, ht'⟩
  rcases hready with ⟨hpass, _⟩ | ⟨hopen, hmeasured⟩
  · have hout : (readyOutcome t log).1 = t.evalResult := by
      rw [readyOutcome, hpass]
      rfl
    have hsame : completionCandidate t (readyOutcome t log).1 [] = t := by
      rw [hcandidate, hout]
    refine ⟨t, hown t ((completedTraceCandidate_eq_ok (by simp)).mpr
      ⟨hvalid, .inl ⟨by rw [hpass]; rfl, ?_, rfl⟩⟩), hout.symm⟩
    rw [hsame]
    exact (pyEq_of_slots rfl hc).mpr ⟨rfl, hc.slots⟩
  · refine ⟨_, hown _ ((completedTraceCandidate_eq_ok (by simp)).mpr
      ⟨hvalid, .inr ⟨hopen, by simp, rfl⟩⟩), evalResult_completionCandidate⟩

end Rows

section Sweep

variable {rows : List CompletionRow}

-- no two ready decisions of one trace resolve to different outcomes
def Store.ReadyAgree (s : Store) : Prop :=
  ∀ d d' i i' log log' t, s.Decided d i log t → s.Decided d' i' log' t → Ready t log →
    Ready t log' → (readyOutcome t log).1 = (readyOutcome t log').1

structure Store.ReadyRows (s : Store) (rows : List CompletionRow) : Prop where
  ordered : List.Forall₂ s.RowOf s.readyIds rows
  ready : ∀ row ∈ rows, ∃ d i log t, s.Decided d i log t ∧ Ready t log ∧ row = readyRow i t log
  covered : ∀ d i log t, s.Decided d i log t → Ready t log → readyRow i t log ∈ rows

theorem exists_readyRows (h : Sound py s) :
    ∃ rows, collect (s.recoveryRow Dict.empty) s.readyIds = .ok rows ∧ s.ReadyRows rows := by
  have htotal : ∀ d ∈ s.readyIds, ∃ row, s.recoveryRow Dict.empty d = .ok row := by
    intro d hd
    obtain ⟨i, log, t, hd, hready⟩ := (mem_readyIds h).mp hd
    exact ⟨_, recoveryRow_ready hd hready⟩
  obtain ⟨rows, hrows⟩ := collect_total htotal
  have hforall := collect_eq_ok.mp hrows
  have hshape : ∀ d ∈ s.readyIds, ∀ row, s.recoveryRow Dict.empty d = .ok row →
      ∃ i log t, s.Decided d i log t ∧ Ready t log ∧ row = readyRow i t log := by
    intro d hd row hrow
    obtain ⟨i, log, t, hd, hready⟩ := (mem_readyIds h).mp hd
    rw [recoveryRow_ready hd hready] at hrow
    exact ⟨i, log, t, hd, hready, (Except.ok.inj hrow).symm⟩
  refine ⟨rows, hrows, ⟨?_, fun row hrow => ?_, fun d i log t hd hready => ?_⟩⟩
  · exact hforall.imp fun d row => rowOf_recovery h
  · obtain ⟨d, hd, hrow⟩ := collect_mem hrows hrow
    obtain ⟨i, log, t, hd, hready, hrow⟩ := hshape d hd row hrow
    exact ⟨d, i, log, t, hd, hready, hrow⟩
  · obtain ⟨row, hmem, hrow⟩ := mem_of_forall₂ hforall ((mem_readyIds h).mpr ⟨i, log, t, hd, hready⟩)
    rw [recoveryRow_ready hd hready] at hrow
    cases hrow
    exact hmem

theorem mapped_readyRows (hs : s.TracesMapped) (hr : s.ReadyRows rows) : s.Mapped rows := by
  refine ⟨fun _ _ => hs _, fun row hrow => ?_, fun row hrow => ?_⟩
  all_goals
    obtain ⟨_, _, _, _, _, _, rfl⟩ := hr.ready row hrow
    simp [readyRow]

theorem stageable_readyRows (h : Sound py s) (hs : s.TracesMapped) (hr : s.ReadyRows rows) :
    s.Stageable py rows ↔ s.ReadyAgree := by
  constructor
  · intro hstage d d' i i' log log' t hd hd' hready hready'
    exact hstage.outcomes _ (hr.covered d i log t hd hready) _ (hr.covered d' i' log' t hd' hready') rfl
  · intro hagree
    refine ⟨fun row hrow row' hrow' hk => ?_, fun row hrow => ?_, fun k v hv => ?_⟩
    · obtain ⟨d, i, log, t, hd, hready, rfl⟩ := hr.ready row hrow
      obtain ⟨d', i', log', t', hd', hready', rfl⟩ := hr.ready row' hrow'
      have hsame : t = t' := by
        have hat := hd'.trace_at
        rw [← (show t.traceId = t'.traceId from hk), hd.trace_at] at hat
        exact Option.some.inj hat
      subst hsame
      exact hagree d d' i i' log log' t hd hd' hready hready'
    · obtain ⟨d, i, log, t, hd, hready, rfl⟩ := hr.ready row hrow
      obtain ⟨t', ht', _⟩ := completed_ready hs h hd hready
      exact ⟨t', ht'⟩
    · -- a recovery row brings no evidence of its own
      obtain ⟨row, hrow, _, hv⟩ := mem_evidenceFor.mp hv
      obtain ⟨d, i, log, t, hd, hready, rfl⟩ := hr.ready row hrow
      obtain ⟨t', ht', _⟩ := completed_ready hs h hd hready
      have hfield := ((mem_ownEvidence ht').mp hv).1
      simp [readyRow] at hfield

theorem recoverReadyMemoryRuns_eq_ok (h : Sound py s) {out : List MemoryRunCompletion} :
    recoverReadyMemoryRuns py s = .ok out s' ↔
      if s.readyIds = [] then out = [] ∧ s' = s
      else recoverMemoryRuns py s.readyIds Dict.empty s = .ok out s' := by
  obtain ⟨ready, hready, hids⟩ := recoverReady_ids h
  simp only [recoverReadyMemoryRuns, run_bind_eq_ok, run_inspect_eq_ok, hready]
  constructor
  · rintro ⟨_, _, ⟨⟨⟩, rfl⟩, hrun⟩
    rw [hids] at hrun
    split_ifs at hrun ⊢
    · obtain ⟨rfl, rfl⟩ := run_pure_eq_ok.mp hrun
      exact ⟨rfl, rfl⟩
    · exact hrun
  · intro hrun
    refine ⟨ready, s, ⟨rfl, rfl⟩, ?_⟩
    rw [hids]
    split_ifs at hrun ⊢
    · obtain ⟨rfl, rfl⟩ := hrun
      rfl
    · exact hrun

theorem validatedIds_ready (h : Sound py s) :
    validatedBatchRecoveryDecisionIds s.readyIds = .ok () ↔
      s.readyIds ≠ [] ∧ s.readyIds.length ≤ memoryRunBatchMaxItems := by
  simp only [validatedBatchRecoveryDecisionIds, seq_eq_ok, raiseIf_eq_ok, checkEach_eq_ok, not_lt,
    Decidable.not_not]
  constructor
  · rintro ⟨hsome, hmax, _⟩
    exact ⟨hsome, hmax⟩
  · rintro ⟨hsome, hmax⟩
    refine ⟨hsome, hmax, fun d hd => ?_, nodup_readyIds h⟩
    obtain ⟨i, log, t, hd, _⟩ := (mem_readyIds h).mp hd
    rw [← hd.decision_id]
    exact validDecisionId hd.log_valid.1 _

theorem validatedAttributions_empty (ids : List Str) :
    validatedBatchRecoveryAttributions Dict.empty ids = .ok () := by
  simp only [validatedBatchRecoveryAttributions, seq_eq_ok, raiseIf_eq_ok]
  exact ⟨by simp [Dict.keys, Dict.empty], rfl⟩

theorem readyIds_ne_nil (h : Sound py s) (hd : s.Decided d i log t) (hready : Ready t log) :
    s.readyIds ≠ [] := by
  intro hnil
  have hmem := (mem_readyIds h).mpr ⟨i, log, t, hd, hready⟩
  rw [hnil] at hmem
  cases hmem

theorem stageLog_readyRow (hd : s.Decided d i log t) {q : Nat × MemoryUsageLog} :
    s.stageLog (readyRow i t log) = .ok q ↔ ∃ log', q = (i, log') ∧
      sealedUsageOutcomeCandidate log (readyOutcome t log).1 (readyOutcome t log).2 = .ok log' :=
  @stageLog_eq_ok s (readyRow i t log) d log t hd q

theorem ready_recovered (hr : s.ReadyRows rows)
    {staged : StagedCompletions} (ho : s.StagedOutcome py rows staged)
    (hsound : Sound py (s.written staged)) (hd : s.Decided d i log t) (hready : Ready t log) :
    ∃ log' t', (s.written staged).Decided d i log' t' ∧ t'.evalResult = (readyOutcome t log).1 ∧
      log'.evalResult = some t'.evalResult := by
  have hrow := hr.covered d i log t hd hready
  obtain ⟨sealed, hsealed, hresult⟩ := sealed_ready hready hd.log_valid.1
  have hlog : s.stageLog (readyRow i t log) = .ok (i, sealed) :=
    (stageLog_readyRow hd).mpr ⟨sealed, rfl, hsealed⟩
  obtain ⟨u, hu, _, hstaged⟩ := row_written (grounded_of_rowOf hr.ordered) ho hsound hrow
    ⟨log, t, hd, rfl⟩ hlog
  have houtcome := (ho.joint _ _ hstaged).2.result _ hrow rfl
  exact ⟨sealed, u, hu, houtcome, by rw [hresult, houtcome]; rfl⟩

theorem ready_recovery_exact (h : Reachable py s) (hs : s.TracesMapped) :
    ((∃ out s', recoverReadyMemoryRuns py s = .ok out s') ↔
      (s.usageLogs.filter s.readyLog).length ≤ memoryRunBatchMaxItems ∧ s.ReadyAgree) ∧
    (∀ out s', recoverReadyMemoryRuns py s = .ok out s' →
      out.map some = s.readyIds.map s'.completion? ∧
      ∀ d i log t, s.Decided d i log t → Ready t log → ∃ log' t', s'.Decided d i log' t' ∧
        t'.evalResult = (readyOutcome t log).1 ∧ log'.evalResult = some t'.evalResult) ∧
    ∀ e s', recoverReadyMemoryRuns py s = .error e s' → s' = s := by
  have hsound := h.sound
  obtain ⟨rows, hrows, hr⟩ := exists_readyRows hsound
  have hmapped := mapped_readyRows hs hr
  have hindexes := nodup_of_rowOf (nodup_readyIds hsound) hr.ordered
  refine ⟨?_, fun out s' hrun => ?_, atomic_recoverReadyMemoryRuns s⟩
  · rw [← length_readyIds]
    constructor
    · rintro ⟨out, s', hrun⟩
      have hcases := (recoverReadyMemoryRuns_eq_ok hsound).mp hrun
      split_ifs at hcases with hnil
      · refine ⟨by simp [hnil], fun d d' i i' log log' t hd _ hready _ => ?_⟩
        exact absurd hnil (readyIds_ne_nil hsound hd hready)
      · obtain ⟨hids, _, rows', hrows', staged, hstage, _, _⟩ := recoverMemoryRuns_eq_ok.mp hcases
        rw [hrows] at hrows'
        cases hrows'
        obtain ⟨hstageable, _, _⟩ := stage_outcome hsound hmapped hindexes hstage
        exact ⟨((validatedIds_ready hsound).mp hids).2,
          (stageable_readyRows hsound hs hr).mp hstageable⟩
    · rintro ⟨hmax, hagree⟩
      by_cases hnil : s.readyIds = []
      · refine ⟨[], s, (recoverReadyMemoryRuns_eq_ok hsound).mpr ?_⟩
        rw [if_pos hnil]
        exact ⟨rfl, rfl⟩
      · have hlogs : ∀ row ∈ rows, ∃ q, s.stageLog row = .ok q := by
          intro row hrow
          obtain ⟨d, i, log, t, hd, hready, rfl⟩ := hr.ready row hrow
          obtain ⟨sealed, hsealed, _⟩ := sealed_ready hready hd.log_valid.1
          exact ⟨_, (stageLog_readyRow hd).mpr ⟨sealed, rfl, hsealed⟩⟩
        obtain ⟨staged, hstage⟩ := exists_stage hsound hmapped hindexes
          ((stageable_readyRows hsound hs hr).mpr hagree) hlogs
        refine ⟨staged.completions, s.written staged, (recoverReadyMemoryRuns_eq_ok hsound).mpr ?_⟩
        rw [if_neg hnil]
        exact recoverMemoryRuns_eq_ok.mpr ⟨(validatedIds_ready hsound).mpr ⟨hnil, hmax⟩,
          validatedAttributions_empty _, rows, hrows, staged, hstage, rfl, rfl⟩
  · have hcases := (recoverReadyMemoryRuns_eq_ok hsound).mp hrun
    split_ifs at hcases with hnil
    · obtain ⟨rfl, rfl⟩ := hcases
      refine ⟨by simp [hnil], fun d i log t hd hready => ?_⟩
      exact absurd hnil (readyIds_ne_nil hsound hd hready)
    · have heffect := sound_effect hsound (recoverMemoryRuns_effect hcases)
      obtain ⟨_, _, rows', hrows', staged, hstage, rfl, rfl⟩ := recoverMemoryRuns_eq_ok.mp hcases
      rw [hrows] at hrows'
      cases hrows'
      obtain ⟨_, _, ho⟩ := stage_outcome hsound hmapped hindexes hstage
      exact ⟨completions_written hr.ordered (grounded_of_rowOf hr.ordered) ho,
        fun d i log t hd hready => ready_recovered hr ho heffect hd hready⟩

def outcomeCalls (r r' : EvalResult) : List (Env × Operation) :=
  [(sampleEnv, .recordDecisionOutcome (lit "decision_1") r false),
    (sampleEnv, .recordDecisionOutcome (lit "decision_2") r' false)]

theorem agreeing_outcomes_tracesMapped :
    (runStore asciiPython sharedStore (outcomeCalls .pass .pass)).TracesMapped :=
  tracesMapped_of_bare (by decide +kernel)

set_option maxRecDepth 20000 in
theorem agreeing_outcomes_recovered : returns (recoverReadyMemoryRuns asciiPython
    (runStore asciiPython sharedStore (outcomeCalls .pass .pass))) = true := by decide +kernel

theorem ready_recovery_exact_agreeing : ∃ out s', recoverReadyMemoryRuns asciiPython
    (runStore asciiPython sharedStore (outcomeCalls .pass .pass)) = .ok out s' ∧
      out.map some = (runStore asciiPython sharedStore (outcomeCalls .pass .pass)).readyIds.map
        s'.completion? := by
  obtain ⟨out, s', hrun⟩ := exists_of_returns agreeing_outcomes_recovered
  have hexact := ready_recovery_exact (sharedStore_reachable.run (outcomeCalls .pass .pass))
    agreeing_outcomes_tracesMapped
  exact ⟨out, s', hrun, (hexact.2.1 out s' hrun).1⟩

-- two ready decisions of one trace disagree: the sweep is refused, either alone is recovered
set_option maxRecDepth 20000 in
theorem disagreeing_outcomes_stop_the_sweep :
    Reachable asciiPython (runStore asciiPython sharedStore (outcomeCalls .pass .fail)) ∧
    (∃ e s', recoverReadyMemoryRuns asciiPython
      (runStore asciiPython sharedStore (outcomeCalls .pass .fail)) = .error e s') ∧
    ∃ c s', recoverMemoryRun asciiPython (lit "decision_1") none {}
      (runStore asciiPython sharedStore (outcomeCalls .pass .fail)) = .ok c s' :=
  ⟨sharedStore_reachable.run _, exists_of_not_returns (by decide +kernel),
    exists_of_returns (by decide +kernel)⟩

end Sweep

end TraceBackedMemory
