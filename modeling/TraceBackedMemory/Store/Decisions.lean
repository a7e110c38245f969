import TraceBackedMemory.Store.Staging

namespace TraceBackedMemory

open Text Raising

variable {py : Python} {s s' : Store} {rows : List CompletionRow}

section Decisions

structure Store.Decided (s : Store) (decisionId : Str) (index : Nat) (log : MemoryUsageLog)
    (t : Trace) : Prop where
  index_at : s.usageLogIndexes.get? decisionId = some index
  log_at : s.usageLogs[index]? = some log
  decision_id : log.decisionId = decisionId
  trace_id : log.traceId = some t.traceId
  trace_at : s.traces.get? t.traceId = some t
  run_id : log.runId = t.runId
  log_valid : s.LogValid log

theorem mem_logIndexEntries {logs : List MemoryUsageLog} {d : Str} {i : Nat} :
    (d, i) ∈ logIndexEntries logs ↔ ∃ log, logs[i]? = some log ∧ log.decisionId = d := by
  simp only [logIndexEntries, List.mem_map, Prod.exists, List.mk_mem_zipIdx_iff_getElem?,
    Prod.mk.injEq]
  grind

theorem decided_of_index (h : Sound py s) {d : Str} {i : Nat}
    (hi : s.usageLogIndexes.get? d = some i) : ∃ log t, s.Decided d i log t := by
  have hmem := Dict.get?_eq_some.mp hi
  rw [h.logs.index, mem_logIndexEntries] at hmem
  obtain ⟨log, hlog, hd⟩ := hmem
  have hvalid := h.logs.valid log (List.mem_of_getElem? hlog)
  obtain ⟨hblank, t, ht, hrun, _⟩ := validateUsageLogTrace_eq_ok.mp hvalid.2.2
  have hkey := (h.records.traces_at _ _ ht).1
  refine ⟨log, t, hi, hlog, hd, ?_, hkey ▸ ht, hrun, hvalid⟩
  rw [hkey]
  cases hid : log.traceId with
  | none =>
    rw [hid] at hblank
    exact absurd hblank (by decide)
  | some k => rfl

theorem decided_of_log (h : Sound py s) {i : Nat} {log : MemoryUsageLog}
    (hlog : s.usageLogs[i]? = some log) : ∃ t, s.Decided log.decisionId i log t := by
  have hi : s.usageLogIndexes.get? log.decisionId = some i := by
    rw [Dict.get?_eq_some, h.logs.index, mem_logIndexEntries]
    exact ⟨log, hlog, rfl⟩
  obtain ⟨log', t, hd⟩ := decided_of_index h hi
  have hsame := hd.log_at
  rw [hlog] at hsame
  cases hsame
  exact ⟨t, hd⟩

theorem Store.Decided.index_unique {d d' : Str} {i : Nat} {log log' : MemoryUsageLog} {t t' : Trace}
    (h : s.Decided d i log t) (h' : s.Decided d' i log' t') : d = d' := by
  have hlog := h.log_at
  rw [h'.log_at] at hlog
  cases hlog
  exact h.decision_id.symm.trans h'.decision_id

theorem Store.Decided.unique {d : Str} {i i' : Nat} {log log' : MemoryUsageLog} {t t' : Trace}
    (h : s.Decided d i log t) (h' : s.Decided d i' log' t') : i = i' ∧ log = log' ∧ t = t' := by
  have hindex := h.index_at
  rw [h'.index_at] at hindex
  cases hindex
  have hlog := h.log_at
  rw [h'.log_at] at hlog
  cases hlog
  have hid := h.trace_id
  rw [h'.trace_id] at hid
  have ht := h.trace_at
  rw [← Option.some.inj hid, h'.trace_at] at ht
  exact ⟨rfl, rfl, (Option.some.inj ht).symm⟩

theorem validTraceId {t : Trace} (h : validateTrace py t = .ok ()) (label : Str) :
    validateRequiredString t.traceId (lit "trace_id") label (some memoryIdMaxChars) = .ok () := by
  have hid := (validateTrace_eq_ok.mp h).1 (lit "trace_id", t.traceId) (by simp)
  simpa only [validateRequiredString, seq_eq_ok, raiseIf_eq_ok] using hid

theorem validDecisionId {log : MemoryUsageLog} (h : validateUsageLog log = .ok ()) (label : Str) :
    validateRequiredString log.decisionId (lit "decision_id") label (some memoryIdMaxChars) =
      .ok () := by
  simp only [validateUsageLog, bind_eq_ok, exists_unit, checkEach_eq_ok] at h
  have hid := h.1 (lit "decision_id", log.decisionId) (by simp)
  simpa only [validateRequiredString, seq_eq_ok, raiseIf_eq_ok] using hid

theorem completedRun_eq_ok (h : Sound py s) {d : Str} {i : Nat} {log : MemoryUsageLog} {t : Trace}
    (hd : s.Decided d i log t) {r : EvalResult} {b : Bool} {a : CompletionArguments}
    {run : CompletedRun} :
    s.completedRun py t.traceId d r b a = .ok run ↔ validateMeasuredOutcome r b = .ok () ∧
      ∃ t', completedTraceCandidate py t r a.provided = .ok t' ∧
      ∃ log', sealedUsageOutcomeCandidate log r b = .ok log' ∧ run = ⟨i, t', log'⟩ := by
  have htrace := validTraceId (h.records.traces_at _ _ hd.trace_at).2
    (lit "memory run completion requires")
  have hdecision := validDecisionId hd.log_valid.1 (lit "memory run completion requires")
  rw [hd.decision_id] at hdecision
  have hbelongs : ¬(log.traceId ≠ some t.traceId ∨ log.runId ≠ t.runId) := by
    simp [hd.trace_id, hd.run_id]
  simp only [Store.completedRun, Store.usageLogIndex, Store.usageLogAt, bind_eq_ok, exists_unit,
    demand_eq_ok, raiseIf_eq_ok, pure_eq_ok, hd.trace_at, hd.index_at, Option.some.injEq]
  constructor
  · rintro ⟨_, _, houtcome, _, rfl, _, rfl, log', hlog, _, t', ht', log'', hsealed, _, _, rfl⟩
    rw [hd.log_at] at hlog
    cases hlog
    exact ⟨houtcome, t', ht', log'', hsealed, rfl⟩
  · rintro ⟨houtcome, t', ht', log', hsealed, rfl⟩
    have hvalid := hd.log_valid.seals (seals_of_candidate hsealed)
    exact ⟨htrace, hdecision, houtcome, t, rfl, i, rfl, log, hd.log_at, hbelongs, t', ht', log',
      hsealed, hvalid.2.1, hvalid.2.2, rfl⟩

def Store.completed (s : Store) (index : Nat) (t : Trace) (log : MemoryUsageLog) : Store :=
  { s with
    traces := s.traces.set t.traceId t
    usageLogs := s.usageLogs.set index log }

theorem traceId_of_identity {t t' : Trace} (h : t'.identity = t.identity) :
    t'.traceId = t.traceId := by
  simp only [Trace.identity, Trace.mk.injEq] at h
  exact h.1

theorem completeMemoryRun_eq_ok (h : Sound py s) {d : Str} {i : Nat} {log : MemoryUsageLog}
    {t : Trace} (hd : s.Decided d i log t) {r : EvalResult} {b : Bool} {a : CompletionArguments}
    {c : MemoryRunCompletion} :
    completeMemoryRun py t.traceId d r b a s = .ok c s' ↔ validateMeasuredOutcome r b = .ok () ∧
      completedTraceCandidate py t r a.provided = .ok c.trace ∧
      sealedUsageOutcomeCandidate log r b = .ok c.usageLog ∧
      s' = s.completed i c.trace c.usageLog := by
  simp only [completeMemoryRun, run_bind_eq_ok, run_inspect_eq_ok, run_assign_eq_ok,
    run_pure_eq_ok, completedRun_eq_ok h hd]
  constructor
  · rintro ⟨_, _, ⟨⟨houtcome, t', ht', log', hsealed, rfl⟩, rfl⟩, _, _, rfl, _, _, rfl, rfl, rfl⟩
    refine ⟨houtcome, ht', hsealed, ?_⟩
    rw [Store.completed, traceId_of_identity (completes_of_candidate ht').1.1]
  · rintro ⟨houtcome, ht', hsealed, rfl⟩
    refine ⟨_, s, ⟨⟨houtcome, _, ht', _, hsealed, rfl⟩, rfl⟩, (), _, rfl, (), _, rfl, rfl, ?_⟩
    rw [Store.completed, traceId_of_identity (completes_of_candidate ht').1.1]

theorem stageLog_eq_ok {row : CompletionRow} {d : Str} {log : MemoryUsageLog} {t : Trace}
    (hd : s.Decided d row.logIndex log t) {q : Nat × MemoryUsageLog} :
    s.stageLog row = .ok q ↔ ∃ log', q = (row.logIndex, log') ∧
      sealedUsageOutcomeCandidate log row.evalResult row.memoryCausedFailure = .ok log' := by
  simp only [Store.stageLog, Store.usageLogAt, bind_eq_ok, exists_unit, demand_eq_ok, pure_eq_ok,
    hd.log_at, Option.some.injEq]
  constructor
  · rintro ⟨_, rfl, log', hsealed, _, _, rfl⟩
    exact ⟨log', rfl, hsealed⟩
  · rintro ⟨log', rfl, hsealed⟩
    have hvalid := hd.log_valid.seals (seals_of_candidate hsealed)
    exact ⟨log, rfl, log', hsealed, hvalid.2.1, hvalid.2.2, rfl⟩

end Decisions

section Sample

def sharedLog (decisionId : String) : MemoryUsageLog where
  decisionId := lit decisionId
  runId := lit "run_2"
  mode := .debug
  candidateMemoryIds := []
  usedMemoryIds := []
  blockedMemoryIds := []
  reason := lit "no candidate"
  risk := .low
  recommendedInjection := .none
  traceId := some (lit "trace_2")
  context := Dict.ofList [(lit "mode", lit "debug"), (lit "repo", lit "core"),
    (lit "commit_sha", lit "c0ffee2")]

-- one trace, and two decisions taken on it
def sharedSnapshot : Snapshot where
  traces := [liveTrace]
  usageLogs := [{ log := sharedLog "decision_1" }, { log := sharedLog "decision_2" }]

def sharedLoad : Except Exn Store := fromSnapshot asciiPython sampleEnv 0 sampleSession {} sharedSnapshot

def sharedStore : Store := sharedLoad.toOption.getD (Store.fresh 0 sampleSession)

set_option maxRecDepth 20000 in
theorem sharedLoad_ok : sharedLoad = .ok sharedStore := by
  have hok : sharedLoad.toOption.isSome = true := by decide +kernel
  cases h : sharedLoad with
  | ok s => simp [sharedStore, h, Except.toOption]
  | error e => simp [h, Except.toOption] at hok

theorem sharedStore_reachable : Reachable asciiPython sharedStore :=
  .loaded sampleEnv 0 sampleSession {} sharedSnapshot sharedLoad_ok

end Sample

end TraceBackedMemory
