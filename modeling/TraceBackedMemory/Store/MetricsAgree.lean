import TraceBackedMemory.Store.Metrics

namespace TraceBackedMemory

open Text Raising

variable {py : Python} {s : Store} {fl : FloatArithmetic} {logs : List MemoryUsageLog}
  {audits : List MemoryRunAudit}

section Tallies

def MemoryUsageLog.usedAnything (log : MemoryUsageLog) : Bool := !log.usedMemoryIds.isEmpty

def MemoryUsageLog.passed (log : MemoryUsageLog) : Bool := decide (log.evalResult = some .pass)

def MemoryUsageLog.unevaluated (log : MemoryUsageLog) : Bool := !evaluated? log.evalResult

def MemoryUsageLog.measuredWithMemory (log : MemoryUsageLog) : Bool :=
  evaluated? log.evalResult && log.usedAnything

def MemoryUsageLog.measuredWithoutMemory (log : MemoryUsageLog) : Bool :=
  evaluated? log.evalResult && !log.usedAnything

-- what the single pass adds up, each count taken over the logs on its own
def MetricsTally.over (t : MetricsTally) (logs : List MemoryUsageLog) : MetricsTally where
  candidateMemoryCount :=
    t.candidateMemoryCount + (logs.map (fun log => log.candidateMemoryIds.length)).sum
  usedMemoryCount := t.usedMemoryCount + (logs.map (fun log => log.usedMemoryIds.length)).sum
  blockedMemoryCount := t.blockedMemoryCount + (logs.map (fun log => log.blockedMemoryIds.length)).sum
  obsoleteAttempts := t.obsoleteAttempts + (logs.map (fun log =>
    log.candidateMemoryStatuses.values.countP (fun status => decide (status = .obsolete)))).sum
  evaluatedWithMemoryCount :=
    t.evaluatedWithMemoryCount + logs.countP MemoryUsageLog.measuredWithMemory
  passedWithMemoryCount :=
    t.passedWithMemoryCount + logs.countP (fun log => log.measuredWithMemory && log.passed)
  evaluatedWithoutMemoryCount :=
    t.evaluatedWithoutMemoryCount + logs.countP MemoryUsageLog.measuredWithoutMemory
  passedWithoutMemoryCount :=
    t.passedWithoutMemoryCount + logs.countP (fun log => log.measuredWithoutMemory && log.passed)
  unevaluatedDecisionCount :=
    t.unevaluatedDecisionCount + logs.countP MemoryUsageLog.unevaluated
  wrongMemoryFailureCount :=
    t.wrongMemoryFailureCount + logs.countP (fun log => log.memoryCausedFailure)

theorem tally_over (t : MetricsTally) (logs : List MemoryUsageLog) :
    logs.foldl MetricsTally.add t = t.over logs := by
  induction logs generalizing t with
  | nil => rfl
  | cons log logs ih =>
    rw [List.foldl_cons, ih]
    simp only [MetricsTally.over, List.map_cons, List.sum_cons, List.countP_cons,
      MetricsTally.add, MetricsTally.addMemories, MetricsTally.addOutcome,
      MemoryUsageLog.measuredWithMemory, MemoryUsageLog.measuredWithoutMemory,
      MemoryUsageLog.unevaluated, MemoryUsageLog.usedAnything, MemoryUsageLog.passed]
    obtain he | he := Bool.eq_false_or_eq_true (evaluated? log.evalResult) <;>
      obtain hu | hu := Bool.eq_false_or_eq_true log.usedMemoryIds.isEmpty <;>
      simp only [he, hu, Bool.not_true, Bool.not_false, Bool.false_eq_true, ↓reduceIte,
        Bool.and_false, Bool.false_and, Bool.true_and, Bool.and_true, decide_eq_true_eq,
        MetricsTally.mk.injEq] <;>
      omega

theorem classes_cover (logs : List MemoryUsageLog) :
    logs.countP MemoryUsageLog.measuredWithMemory + logs.countP MemoryUsageLog.measuredWithoutMemory +
      logs.countP MemoryUsageLog.unevaluated = logs.length := by
  induction logs with
  | nil => rfl
  | cons log logs ih =>
    simp only [List.countP_cons, List.length_cons, ← ih, MemoryUsageLog.measuredWithMemory,
      MemoryUsageLog.measuredWithoutMemory, MemoryUsageLog.unevaluated]
    obtain he | he := Bool.eq_false_or_eq_true (evaluated? log.evalResult) <;>
      obtain hu | hu := Bool.eq_false_or_eq_true (log.usedAnything) <;> simp [he, hu] <;> omega

def RunTally.over (t : RunTally) (audits : List MemoryRunAudit) : RunTally where
  decisionCount := t.decisionCount + audits.length
  pendingCount := t.pendingCount + audits.countP (fun a => decide (a.status = .pending))
  traceOnlyCount := t.traceOnlyCount + audits.countP (fun a => decide (a.status = .traceOnly))
  decisionOnlyCount := t.decisionOnlyCount + audits.countP (fun a => decide (a.status = .decisionOnly))
  completeCount := t.completeCount + audits.countP (fun a => decide (a.status = .complete))
  conflictCount := t.conflictCount + audits.countP (fun a => decide (a.status = .conflict))
  autoRecoverableCount := t.autoRecoverableCount +
    audits.countP (fun a => decide ((memoryRunRemediation a).action = .recover))
  attributionRequiredCount := t.attributionRequiredCount +
    audits.countP (fun a => decide ((memoryRunRemediation a).action = .recoverWithAttribution))

theorem runTally_over (t : RunTally) (audits : List MemoryRunAudit) :
    audits.foldl RunTally.add t = t.over audits := by
  induction audits generalizing t with
  | nil => rfl
  | cons a audits ih =>
    rw [List.foldl_cons, ih]
    simp only [RunTally.over, List.length_cons, List.countP_cons, RunTally.add]
    cases hs : a.status <;> cases ha : (memoryRunRemediation a).action <;>
      simp only [RunTally.addStatus, RunTally.addAction, RunTally.mk.injEq, reduceCtorEq,
        decide_true, decide_false, Bool.false_eq_true, ↓reduceIte] <;> omega

theorem statuses_cover (audits : List MemoryRunAudit) :
    audits.countP (fun a => decide (a.status = .pending)) +
      audits.countP (fun a => decide (a.status = .traceOnly)) +
      audits.countP (fun a => decide (a.status = .decisionOnly)) +
      audits.countP (fun a => decide (a.status = .complete)) +
      audits.countP (fun a => decide (a.status = .conflict)) = audits.length := by
  induction audits with
  | nil => rfl
  | cons a audits ih =>
    simp only [List.countP_cons, List.length_cons, ← ih]
    cases a.status <;> simp <;> omega

theorem recoverable_cover (audits : List MemoryRunAudit) :
    audits.countP (fun a => decide ((memoryRunRemediation a).action = .recover)) +
      audits.countP (fun a => decide ((memoryRunRemediation a).action = .recoverWithAttribution)) =
    audits.countP (fun a => decide (a.status = .traceOnly)) +
      audits.countP (fun a => decide (a.status = .decisionOnly)) := by
  induction audits with
  | nil => rfl
  | cons a audits ih =>
    have haction : (memoryRunRemediation a).action = (memoryRunResolution a).1 := rfl
    simp only [List.countP_cons, haction, memoryRunResolution] at ih ⊢
    cases hs : a.status <;> simp only [] <;> split_ifs <;> simp_all <;> omega

end Tallies

section Counters

def MemoryUsageLog.failedOrErrored (log : MemoryUsageLog) : Bool :=
  decide (log.evalResult = some .fail ∨ log.evalResult = some .error)

structure OutcomeCounters.Count (c : OutcomeCounters) (logs : List MemoryUsageLog) : Prop where
  candidate : ∀ i, c.candidate.count i = (logs.map (fun log => log.candidateMemoryIds.count i)).sum
  used : ∀ i, c.used.count i = (logs.map (fun log => log.usedMemoryIds.count i)).sum
  blocked : ∀ i, c.blocked.count i = (logs.map (fun log => log.blockedMemoryIds.count i)).sum
  passed_use : ∀ i, c.passedUse.count i =
    ((logs.filter MemoryUsageLog.passed).map (fun log => log.usedMemoryIds.count i)).sum
  failed_use : ∀ i, c.failedOrErroredUse.count i =
    ((logs.filter MemoryUsageLog.failedOrErrored).map (fun log => log.usedMemoryIds.count i)).sum
  unevaluated_use : ∀ i, c.unevaluatedUse.count i =
    ((logs.filter MemoryUsageLog.unevaluated).map
      (fun log => log.usedMemoryIds.count i)).sum

theorem addUses_eq (log : MemoryUsageLog) (c : OutcomeCounters) (ids : List Str) :
    ids.foldl (OutcomeCounters.addUse log.evalResult) c =
      if log.passed then { c with passedUse := c.passedUse.update ids }
      else if log.failedOrErrored then
        { c with failedOrErroredUse := c.failedOrErroredUse.update ids }
      else { c with unevaluatedUse := c.unevaluatedUse.update ids } := by
  simp only [MemoryUsageLog.passed, MemoryUsageLog.failedOrErrored, decide_eq_true_eq]
  induction ids generalizing c with
  | nil => simp [Counter.update]
  | cons i ids ih =>
    rw [List.foldl_cons, ih, OutcomeCounters.addUse]
    split_ifs <;> rfl

theorem outcome_exclusive (log : MemoryUsageLog) :
    (log.passed = true ∧ log.failedOrErrored = false ∧ log.unevaluated = false) ∨
    (log.passed = false ∧ log.failedOrErrored = true ∧ log.unevaluated = false) ∨
    (log.passed = false ∧ log.failedOrErrored = false ∧ log.unevaluated = true) := by
  unfold MemoryUsageLog.passed MemoryUsageLog.failedOrErrored MemoryUsageLog.unevaluated
  cases log.evalResult with
  | none => exact .inr (.inr ⟨rfl, rfl, rfl⟩)
  | some r => cases r <;> decide

theorem counters_count (logs : List MemoryUsageLog) :
    (logs.foldl OutcomeCounters.add {}).Count logs := by
  induction logs using List.reverseRecOn with
  | nil => constructor <;> intro i <;> exact Counter.count_empty i
  | append_singleton logs log ih =>
    rw [List.foldl_append, List.foldl_cons, List.foldl_nil, OutcomeCounters.add, addUses_eq]
    obtain ⟨hcandidate, hused, hblocked, hpassed, hfailed, hopen⟩ := ih
    rcases outcome_exclusive log with ⟨hp, hf, hu⟩ | ⟨hp, hf, hu⟩ | ⟨hp, hf, hu⟩ <;>
      constructor <;> intro i <;>
      simp [Counter.count_update, hp, hf, hu, hcandidate, hused, hblocked, hpassed, hfailed, hopen]

theorem uses_cover (f : MemoryUsageLog → Nat) (logs : List MemoryUsageLog) :
    (logs.map f).sum = ((logs.filter MemoryUsageLog.passed).map f).sum +
      ((logs.filter MemoryUsageLog.failedOrErrored).map f).sum +
      ((logs.filter MemoryUsageLog.unevaluated).map f).sum := by
  induction logs with
  | nil => rfl
  | cons log logs ih =>
    rw [List.map_cons, List.sum_cons, ih]
    rcases outcome_exclusive log with ⟨hp, hf, hu⟩ | ⟨hp, hf, hu⟩ | ⟨hp, hf, hu⟩ <;>
      simp only [List.filter_cons, hp, hf, hu, ↓reduceIte, Bool.false_eq_true, List.map_cons,
        List.sum_cons] <;> omega

end Counters

section Agreement

structure Store.MetricsAgree (fl : FloatArithmetic) (s : Store) (m : MemoryMetrics) : Prop where
  decisions : m.decisionCount = s.usageLogs.length
  candidates : m.candidateMemoryCount =
    (s.usageLogs.map (fun log => log.candidateMemoryIds.length)).sum
  used : m.usedMemoryCount = (s.usageLogs.map (fun log => log.usedMemoryIds.length)).sum
  blocked : m.blockedMemoryCount = (s.usageLogs.map (fun log => log.blockedMemoryIds.length)).sum
  obsolete : m.obsoleteMemoryUsageAttempts = (s.usageLogs.map (fun log =>
    log.candidateMemoryStatuses.values.countP (fun status => decide (status = .obsolete)))).sum
  wrong : m.wrongMemoryFailureCount = s.usageLogs.countP (fun log => log.memoryCausedFailure)
  with_memory : m.evaluatedWithMemoryCount = s.usageLogs.countP MemoryUsageLog.measuredWithMemory
  without_memory :
    m.evaluatedWithoutMemoryCount = s.usageLogs.countP MemoryUsageLog.measuredWithoutMemory
  open_decisions : m.unevaluatedDecisionCount = s.usageLogs.countP MemoryUsageLog.unevaluated
  classes : m.evaluatedWithMemoryCount + m.evaluatedWithoutMemoryCount + m.unevaluatedDecisionCount =
    m.decisionCount
  rate_with : m.passRateWithMemory = if m.evaluatedWithMemoryCount = 0 then none
    else some (fl.ratio (s.usageLogs.countP (fun log => log.measuredWithMemory && log.passed))
      m.evaluatedWithMemoryCount)
  rate_without : m.passRateWithoutMemory = if m.evaluatedWithoutMemoryCount = 0 then none
    else some (fl.ratio (s.usageLogs.countP (fun log => log.measuredWithoutMemory && log.passed))
      m.evaluatedWithoutMemoryCount)

-- one audit a decision, and every status counted as often as the audits carry it
structure Store.RunMetricsAgree (s : Store) (audits : List MemoryRunAudit) (m : MemoryRunMetrics) :
    Prop where
  audited : (audits.map MemoryRunAudit.decisionId).Perm (s.usageLogs.map MemoryUsageLog.decisionId)
  statuses : ∀ a ∈ audits, ∃ i log t, s.Decided a.decisionId i log t ∧
    a.status = memoryRunAuditStatus t.evalResult log.evalResult
  decisions : m.decisionCount = s.usageLogs.length
  pending : m.pendingCount = audits.countP (fun a => decide (a.status = .pending))
  trace_only : m.traceOnlyCount = audits.countP (fun a => decide (a.status = .traceOnly))
  decision_only : m.decisionOnlyCount = audits.countP (fun a => decide (a.status = .decisionOnly))
  complete : m.completeCount = audits.countP (fun a => decide (a.status = .complete))
  conflict : m.conflictCount = audits.countP (fun a => decide (a.status = .conflict))
  classes : m.pendingCount + m.traceOnlyCount + m.decisionOnlyCount + m.completeCount +
    m.conflictCount = m.decisionCount
  recoverable : m.recoverableCount = m.autoRecoverableCount + m.attributionRequiredCount ∧
    m.recoverableCount = m.traceOnlyCount + m.decisionOnlyCount

structure MemoryOutcomeMetrics.Count (o : MemoryOutcomeMetrics) (fl : FloatArithmetic)
    (logs : List MemoryUsageLog) : Prop where
  candidate : o.candidateCount = (logs.map (fun log => log.candidateMemoryIds.count o.memoryId)).sum
  used : o.usedCount = (logs.map (fun log => log.usedMemoryIds.count o.memoryId)).sum
  blocked : o.blockedCount = (logs.map (fun log => log.blockedMemoryIds.count o.memoryId)).sum
  passed_use : o.passedUseCount =
    ((logs.filter MemoryUsageLog.passed).map (fun log => log.usedMemoryIds.count o.memoryId)).sum
  failed_use : o.failedOrErroredUseCount =
    ((logs.filter MemoryUsageLog.failedOrErrored).map
      (fun log => log.usedMemoryIds.count o.memoryId)).sum
  unevaluated_use : o.unevaluatedUseCount =
    ((logs.filter MemoryUsageLog.unevaluated).map (fun log => log.usedMemoryIds.count o.memoryId)).sum
  evaluated_use : o.evaluatedUseCount = o.passedUseCount + o.failedOrErroredUseCount
  classes : o.usedCount = o.evaluatedUseCount + o.unevaluatedUseCount
  rate : o.observedPassRate = if o.evaluatedUseCount = 0 then none
    else some (fl.ratio o.passedUseCount o.evaluatedUseCount)

-- every known memory once, and over all of them exactly what the logs list
structure Store.OutcomesAgree (fl : FloatArithmetic) (s : Store) (l : List MemoryOutcomeMetrics) :
    Prop where
  once : (l.map MemoryOutcomeMetrics.memoryId).Pairwise (· < ·)
  known : ∀ i, i ∈ l.map MemoryOutcomeMetrics.memoryId ↔ s.memoryKnown i = true
  count : ∀ o ∈ l, o.Count fl s.usageLogs
  candidates : (l.map MemoryOutcomeMetrics.candidateCount).sum =
    (s.usageLogs.map (fun log => log.candidateMemoryIds.length)).sum
  used : (l.map MemoryOutcomeMetrics.usedCount).sum =
    (s.usageLogs.map (fun log => log.usedMemoryIds.length)).sum
  blocked : (l.map MemoryOutcomeMetrics.blockedCount).sum =
    (s.usageLogs.map (fun log => log.blockedMemoryIds.length)).sum
  passed_uses : (l.map MemoryOutcomeMetrics.passedUseCount).sum =
    ((s.usageLogs.filter MemoryUsageLog.passed).map (fun log => log.usedMemoryIds.length)).sum
  failed_uses : (l.map MemoryOutcomeMetrics.failedOrErroredUseCount).sum =
    ((s.usageLogs.filter MemoryUsageLog.failedOrErrored).map
      (fun log => log.usedMemoryIds.length)).sum
  unevaluated_uses : (l.map MemoryOutcomeMetrics.unevaluatedUseCount).sum =
    ((s.usageLogs.filter MemoryUsageLog.unevaluated).map (fun log => log.usedMemoryIds.length)).sum

theorem divideCounts_of_pos {k n : Nat} (h : n ≠ 0) : fl.divideCounts k n = .ok (fl.ratio k n) := by
  rw [FloatArithmetic.divideCounts, raiseIf_of_not h]
  rfl

theorem passRate_eq (k n : Nat) :
    passRate fl k n = .ok (if n = 0 then none else some (fl.ratio k n)) := by
  rw [passRate]
  split_ifs with h
  · rfl
  · rw [divideCounts_of_pos h]
    rfl

theorem averageLessonConfidence_total : ∃ x, s.averageLessonConfidence fl = .ok x := by
  rw [Store.averageLessonConfidence]
  split_ifs with h
  · exact ⟨_, rfl⟩
  · have hlength : s.lessons.values.length ≠ 0 := by
      intro hzero
      exact h (List.isEmpty_iff.mpr (List.length_eq_zero_iff.mp hzero))
    rw [FloatArithmetic.divide, raiseIf_of_not hlength]
    exact ⟨_, rfl⟩

theorem exists_metrics (fl : FloatArithmetic) (s : Store) :
    ∃ m, s.metrics fl = .ok m ∧ s.MetricsAgree fl m := by
  have htotal : ∃ x, s.averageLessonConfidence fl = .ok x := averageLessonConfidence_total
  obtain ⟨average, haverage⟩ := htotal
  have htally := tally_over {} s.usageLogs
  refine ⟨_, bind_eq_ok.mpr ⟨average, haverage, bind_eq_ok.mpr ⟨_, passRate_eq _ _,
    bind_eq_ok.mpr ⟨_, passRate_eq _ _, rfl⟩⟩⟩, ?_⟩
  have hclasses := classes_cover s.usageLogs
  rw [htally]
  constructor <;> simp only [MetricsTally.over, Nat.zero_add]
  exact hclasses

theorem accumulate_audits {t : RunTally} (h : collect s.memoryRunAudit logs = .ok audits) :
    accumulate s.tallyRun t logs = .ok (audits.foldl RunTally.add t) := by
  have hforall := collect_eq_ok.mp h
  clear h
  induction hforall generalizing t with
  | nil => rfl
  | cons hab _ ih =>
    refine bind_eq_ok.mpr ⟨_, bind_eq_ok.mpr ⟨_, hab, rfl⟩, ih⟩

theorem memoryRunAudit_eq {d : Str} {i : Nat} {log : MemoryUsageLog} {t : Trace}
    (hd : s.Decided d i log t) : s.memoryRunAudit log = .ok ⟨d, t.traceId, log.runId,
      memoryRunAuditStatus t.evalResult log.evalResult, t.evalResult, log.evalResult,
      log.memoryCausedFailure⟩ := by
  rw [Store.memoryRunAudit]
  simp only [hd.trace_id, Option.getD_some, hd.trace_at, bind_eq_ok, demand_eq_ok, pure_eq_ok]
  exact ⟨t, rfl, by rw [hd.decision_id]⟩

theorem exists_audits (h : Sound py s) (hlogs : ∀ log ∈ logs, log ∈ s.usageLogs) :
    ∃ audits, collect s.memoryRunAudit logs = .ok audits ∧
      audits.map MemoryRunAudit.decisionId = logs.map MemoryUsageLog.decisionId ∧
      ∀ a ∈ audits, ∃ i log t, s.Decided a.decisionId i log t ∧
        a.status = memoryRunAuditStatus t.evalResult log.evalResult := by
  induction logs with
  | nil => exact ⟨[], rfl, rfl, by simp⟩
  | cons log logs ih =>
    obtain ⟨audits, haudits, hids, hstatus⟩ := ih fun l hl => hlogs l (List.mem_cons_of_mem log hl)
    obtain ⟨i, hi⟩ := List.getElem?_of_mem (hlogs log List.mem_cons_self)
    obtain ⟨t, hd⟩ := decided_of_log h hi
    refine ⟨_ :: audits, bind_eq_ok.mpr ⟨_, memoryRunAudit_eq hd, bind_eq_ok.mpr ⟨_, haudits, rfl⟩⟩,
      by rw [List.map_cons, List.map_cons, hids], ?_⟩
    intro a ha
    rcases List.mem_cons.mp ha with rfl | ha
    · exact ⟨i, log, t, hd, rfl⟩
    · exact hstatus a ha

theorem exists_runMetrics (h : Sound py s) : ∃ audits m, s.memoryRunAudits = .ok audits ∧
    s.memoryRunMetrics = .ok m ∧ s.RunMetricsAgree audits m := by
  have hperm := List.perm_insertionSort (fun a b : MemoryUsageLog => a.decisionId ≤ b.decisionId)
    s.usageLogs
  obtain ⟨audits, haudits, hids, hstatus⟩ := exists_audits h fun log hlog => hperm.mem_iff.mp hlog
  obtain ⟨audits', haudits', hsame⟩ := collect_perm hperm haudits
  have hmetrics := accumulate_audits (t := {}) haudits'
  rw [runTally_over] at hmetrics
  refine ⟨audits, _, haudits, bind_eq_ok.mpr ⟨_, hmetrics, rfl⟩, ?_⟩
  have hlength : audits'.length = s.usageLogs.length := (collect_eq_ok.mp haudits').length_eq.symm
  have hclasses := statuses_cover audits'
  have hrecoverable := recoverable_cover audits'
  constructor
  case audited => exact hids ▸ hperm.map _
  case statuses => exact hstatus
  all_goals simp only [RunTally.over, Nat.zero_add]
  case decisions => exact hlength
  case classes => exact hclasses
  case recoverable => exact ⟨trivial, hrecoverable⟩
  all_goals exact (hsame.countP_eq _).symm

theorem outcome_eq (c : OutcomeCounters) (i : Str) : c.outcome fl i = .ok
    { memoryId := i
      candidateCount := c.candidate.count i
      usedCount := c.used.count i
      blockedCount := c.blocked.count i
      evaluatedUseCount := c.passedUse.count i + c.failedOrErroredUse.count i
      passedUseCount := c.passedUse.count i
      failedOrErroredUseCount := c.failedOrErroredUse.count i
      unevaluatedUseCount := c.unevaluatedUse.count i
      observedPassRate := if c.passedUse.count i + c.failedOrErroredUse.count i = 0 then none
        else some (fl.ratio (c.passedUse.count i)
          (c.passedUse.count i + c.failedOrErroredUse.count i)) } := by
  unfold OutcomeCounters.outcome
  by_cases h : c.passedUse.count i + c.failedOrErroredUse.count i = 0
  · simp only [if_pos h]
    rfl
  · simp only [if_neg h, divideCounts_of_pos h]
    rfl

theorem exists_outcome {c : OutcomeCounters} (hc : c.Count logs) (fl : FloatArithmetic) (i : Str) :
    ∃ o, c.outcome fl i = .ok o ∧ o.memoryId = i ∧ o.Count fl logs := by
  refine ⟨_, outcome_eq c i, rfl, ?_⟩
  have hcover := uses_cover (fun log => log.usedMemoryIds.count i) logs
  rw [← hc.used, ← hc.passed_use, ← hc.failed_use, ← hc.unevaluated_use] at hcover
  exact ⟨hc.candidate i, hc.used i, hc.blocked i, hc.passed_use i, hc.failed_use i,
    hc.unevaluated_use i, rfl, hcover, rfl⟩

theorem mem_knownMemoryIds {i : Str} : i ∈ s.knownMemoryIds ↔ s.memoryKnown i = true := by
  rw [Store.knownMemoryIds, sortedStrs, (List.perm_insertionSort _ _).mem_iff]
  simp only [List.mem_dedup, List.mem_append, Store.memoryKnown, Bool.or_eq_true,
    Dict.contains_iff_mem_keys]

theorem knownMemoryIds_sorted (s : Store) : s.knownMemoryIds.Pairwise (· < ·) := by
  have hsorted : s.knownMemoryIds.Pairwise (· ≤ ·) := List.pairwise_insertionSort (· ≤ ·) _
  have hn : s.knownMemoryIds.Nodup :=
    (List.perm_insertionSort _ _).nodup_iff.mpr (List.nodup_dedup _)
  exact (hsorted.and hn).imp fun h => lt_of_le_of_ne h.1 h.2

theorem total_outcomes {l : List MemoryOutcomeMetrics} {logs : List MemoryUsageLog}
    {ids : MemoryUsageLog → List Str} {f : MemoryOutcomeMetrics → Nat}
    (hn : (l.map MemoryOutcomeMetrics.memoryId).Nodup)
    (hf : ∀ o ∈ l, f o = (logs.map (fun log => (ids log).count o.memoryId)).sum)
    (hknown : ∀ log ∈ logs, ∀ i ∈ ids log, i ∈ l.map MemoryOutcomeMetrics.memoryId) :
    (l.map f).sum = (logs.map (fun log => (ids log).length)).sum := by
  rw [← Counter.sum_sum_count hn hknown, List.map_map]
  exact congrArg List.sum (List.map_congr_left hf)

theorem exists_outcomes (h : Sound py s) (fl : FloatArithmetic) :
    ∃ l, s.memoryOutcomeMetrics fl = .ok l ∧ s.OutcomesAgree fl l := by
  have hcounters := counters_count s.usageLogs
  obtain ⟨l, hl⟩ := collect_total fun i (_ : i ∈ s.knownMemoryIds) => by
    obtain ⟨o, ho, _⟩ := exists_outcome hcounters fl i
    exact ⟨o, ho⟩
  have hspec : ∀ o i, (s.usageLogs.foldl OutcomeCounters.add {}).outcome fl i = .ok o →
      o.memoryId = i ∧ o.Count fl s.usageLogs := by
    intro o i ho
    obtain ⟨o', ho', hid, hcount⟩ := exists_outcome hcounters fl i
    rw [ho] at ho'
    cases ho'
    exact ⟨hid, hcount⟩
  have hids : l.map MemoryOutcomeMetrics.memoryId = s.knownMemoryIds := by
    have hforall := (collect_eq_ok.mp hl).imp fun i o ho => (hspec o i ho).1
    rw [← List.forall₂_eq_eq_eq, List.forall₂_map_left_iff]
    exact hforall.flip
  have hcount : ∀ o ∈ l, o.Count fl s.usageLogs := by
    intro o ho
    obtain ⟨i, _, hi⟩ := collect_mem hl ho
    exact (hspec o i hi).2
  have hsorted := knownMemoryIds_sorted s
  rw [← hids] at hsorted
  have hn : (l.map MemoryOutcomeMetrics.memoryId).Nodup := hsorted.imp fun hlt => ne_of_lt hlt
  have hknown : ∀ log ∈ s.usageLogs, ∀ i ∈ log.candidateMemoryIds ++ log.usedMemoryIds ++
      log.blockedMemoryIds, i ∈ l.map MemoryOutcomeMetrics.memoryId := by
    intro log hlog i hi
    rw [hids, mem_knownMemoryIds]
    exact validateUsageLogMemoryIds_eq_ok.mp (h.logs.valid log hlog).2.1 i hi
  have hused : ∀ log ∈ s.usageLogs, ∀ i ∈ log.usedMemoryIds, i ∈ l.map MemoryOutcomeMetrics.memoryId :=
    fun log hlog i hi => hknown log hlog i (by simp [hi])
  have hpart : ∀ (p : MemoryUsageLog → Bool), ∀ log ∈ s.usageLogs.filter p, ∀ i ∈ log.usedMemoryIds,
      i ∈ l.map MemoryOutcomeMetrics.memoryId :=
    fun p log hlog => hused log (List.mem_of_mem_filter hlog)
  refine ⟨l, hl, ⟨hsorted, fun i => ?_, hcount, ?_, ?_, ?_, ?_, ?_, ?_⟩⟩
  · rw [hids, mem_knownMemoryIds]
  · exact total_outcomes hn (fun o ho => (hcount o ho).candidate)
      fun log hlog i hi => hknown log hlog i (by simp [hi])
  · exact total_outcomes hn (fun o ho => (hcount o ho).used) hused
  · exact total_outcomes hn (fun o ho => (hcount o ho).blocked)
      fun log hlog i hi => hknown log hlog i (by simp [hi])
  · exact total_outcomes hn (fun o ho => (hcount o ho).passed_use) (hpart MemoryUsageLog.passed)
  · exact total_outcomes hn (fun o ho => (hcount o ho).failed_use)
      (hpart MemoryUsageLog.failedOrErrored)
  · exact total_outcomes hn (fun o ho => (hcount o ho).unevaluated_use)
      (hpart MemoryUsageLog.unevaluated)

theorem metrics_agree_with_logs (h : Reachable py s) (fl : FloatArithmetic) :
    (∃ m, s.metrics fl = .ok m ∧ s.MetricsAgree fl m) ∧
    (∃ audits m, s.memoryRunAudits = .ok audits ∧ s.memoryRunMetrics = .ok m ∧
      s.RunMetricsAgree audits m) ∧
    ∃ l, s.memoryOutcomeMetrics fl = .ok l ∧ s.OutcomesAgree fl l :=
  ⟨exists_metrics fl s, exists_runMetrics h.sound, exists_outcomes h.sound fl⟩

theorem metrics_agree_with_logs_shared : ∃ l,
    sharedStore.memoryOutcomeMetrics ⟨fun _ => ⟨0⟩, fun _ _ => ⟨0⟩, fun _ _ => ⟨0⟩⟩ = .ok l ∧
      sharedStore.OutcomesAgree ⟨fun _ => ⟨0⟩, fun _ _ => ⟨0⟩, fun _ _ => ⟨0⟩⟩ l :=
  (metrics_agree_with_logs sharedStore_reachable _).2.2

end Agreement

end TraceBackedMemory
