import TraceBackedMemory.Foundation.Counter
import TraceBackedMemory.Store.BatchOrder

namespace TraceBackedMemory

open Text Raising

-- the arithmetic of floats: sums of confidences, and quotients whose divisor is not zero
structure FloatArithmetic where
  sum : List Number → Double
  quotient : Double → Nat → Double
  ratio : Nat → Nat → Double

inductive ArithmeticError where
  | zeroDivisionError

variable {fl : FloatArithmetic}

def FloatArithmetic.divide (fl : FloatArithmetic) (x : Double) (n : Nat) :
    Except ArithmeticError Double := do
  raiseIf (n = 0) .zeroDivisionError
  return fl.quotient x n

def FloatArithmetic.divideCounts (fl : FloatArithmetic) (k n : Nat) :
    Except ArithmeticError Double := do
  raiseIf (n = 0) .zeroDivisionError
  return fl.ratio k n

section Decisions

structure MemoryMetrics where
  decisionCount : Nat
  candidateMemoryCount : Nat
  usedMemoryCount : Nat
  blockedMemoryCount : Nat
  obsoleteMemoryUsageAttempts : Nat
  averageLessonConfidence : Double
  passRateWithMemory : Option Double
  passRateWithoutMemory : Option Double
  wrongMemoryFailureCount : Nat
  evaluatedWithMemoryCount : Nat
  evaluatedWithoutMemoryCount : Nat
  unevaluatedDecisionCount : Nat

structure MetricsTally where
  candidateMemoryCount : Nat := 0
  usedMemoryCount : Nat := 0
  blockedMemoryCount : Nat := 0
  obsoleteAttempts : Nat := 0
  evaluatedWithMemoryCount : Nat := 0
  passedWithMemoryCount : Nat := 0
  evaluatedWithoutMemoryCount : Nat := 0
  passedWithoutMemoryCount : Nat := 0
  unevaluatedDecisionCount : Nat := 0
  wrongMemoryFailureCount : Nat := 0

def MetricsTally.addMemories (t : MetricsTally) (log : MemoryUsageLog) : MetricsTally :=
  { t with
    candidateMemoryCount := t.candidateMemoryCount + log.candidateMemoryIds.length
    usedMemoryCount := t.usedMemoryCount + log.usedMemoryIds.length
    blockedMemoryCount := t.blockedMemoryCount + log.blockedMemoryIds.length
    obsoleteAttempts := t.obsoleteAttempts +
      log.candidateMemoryStatuses.values.countP (fun status => decide (status = .obsolete))
    wrongMemoryFailureCount := t.wrongMemoryFailureCount + if log.memoryCausedFailure then 1 else 0 }

def MetricsTally.addOutcome (t : MetricsTally) (log : MemoryUsageLog) : MetricsTally :=
  if !evaluated? log.evalResult then
    { t with unevaluatedDecisionCount := t.unevaluatedDecisionCount + 1 }
  else if !log.usedMemoryIds.isEmpty then
    { t with
      evaluatedWithMemoryCount := t.evaluatedWithMemoryCount + 1
      passedWithMemoryCount := t.passedWithMemoryCount + if log.evalResult = some .pass then 1 else 0 }
  else
    { t with
      evaluatedWithoutMemoryCount := t.evaluatedWithoutMemoryCount + 1
      passedWithoutMemoryCount :=
        t.passedWithoutMemoryCount + if log.evalResult = some .pass then 1 else 0 }

def MetricsTally.add (t : MetricsTally) (log : MemoryUsageLog) : MetricsTally :=
  (t.addMemories log).addOutcome log

def passRate (fl : FloatArithmetic) (passedCount evaluatedCount : Nat) :
    Except ArithmeticError (Option Double) :=
  if evaluatedCount = 0 then return none
  else some <$> fl.divideCounts passedCount evaluatedCount

def Store.averageLessonConfidence (fl : FloatArithmetic) (s : Store) :
    Except ArithmeticError Double :=
  if s.lessons.values.isEmpty then return ⟨0⟩
  else fl.divide (fl.sum (s.lessons.values.map Lesson.confidence)) s.lessons.values.length

def Store.metrics (fl : FloatArithmetic) (s : Store) : Except ArithmeticError MemoryMetrics := do
  let t := s.usageLogs.foldl MetricsTally.add {}
  let averageConfidence ← s.averageLessonConfidence fl
  let passRateWithMemory ← passRate fl t.passedWithMemoryCount t.evaluatedWithMemoryCount
  let passRateWithoutMemory ← passRate fl t.passedWithoutMemoryCount t.evaluatedWithoutMemoryCount
  return {
    decisionCount := s.usageLogs.length
    candidateMemoryCount := t.candidateMemoryCount
    usedMemoryCount := t.usedMemoryCount
    blockedMemoryCount := t.blockedMemoryCount
    obsoleteMemoryUsageAttempts := t.obsoleteAttempts
    averageLessonConfidence := averageConfidence
    passRateWithMemory := passRateWithMemory
    passRateWithoutMemory := passRateWithoutMemory
    wrongMemoryFailureCount := t.wrongMemoryFailureCount
    evaluatedWithMemoryCount := t.evaluatedWithMemoryCount
    evaluatedWithoutMemoryCount := t.evaluatedWithoutMemoryCount
    unevaluatedDecisionCount := t.unevaluatedDecisionCount }

end Decisions

section Runs

structure MemoryRunAudit where
  decisionId : Str
  traceId : Str
  runId : Str
  status : MemoryRunAuditStatus
  traceEvalResult : EvalResult
  decisionEvalResult : Option EvalResult
  memoryCausedFailure : Bool

def Store.memoryRunAudit (s : Store) (log : MemoryUsageLog) : Except Exn MemoryRunAudit := do
  let traceId := log.traceId.getD []
  let t ← demand (s.traces.get? traceId) (.keyError traceId)
  return ⟨log.decisionId, traceId, log.runId, memoryRunAuditStatus t.evalResult log.evalResult,
    t.evalResult, log.evalResult, log.memoryCausedFailure⟩

def Store.memoryRunAudits (s : Store) : Except Exn (List MemoryRunAudit) :=
  collect s.memoryRunAudit (s.usageLogs.insertionSort (fun a b => a.decisionId ≤ b.decisionId))

inductive MemoryRunRemediationAction where
  | measure
  | recover
  | recoverWithAttribution
  | investigate
  | none
  deriving DecidableEq

structure MemoryRunRemediation where
  decisionId : Str
  traceId : Str
  runId : Str
  status : MemoryRunAuditStatus
  action : MemoryRunRemediationAction
  traceEvalResult : EvalResult
  decisionEvalResult : Option EvalResult
  memoryCausedFailure : Bool
  resolvedEvalResult : Option EvalResult
  resolvedMemoryCausedFailure : Option Bool

def memoryRunResolution (a : MemoryRunAudit) :
    MemoryRunRemediationAction × Option EvalResult × Option Bool :=
  match a.status with
  | .pending => (.measure, none, none)
  | .traceOnly =>
    if a.traceEvalResult = .pass then (.recover, some a.traceEvalResult, some false)
    else (.recoverWithAttribution, some a.traceEvalResult, none)
  | .decisionOnly => (.recover, a.decisionEvalResult, some a.memoryCausedFailure)
  | .complete => (.none, some a.traceEvalResult, some a.memoryCausedFailure)
  | .conflict => (.investigate, none, none)

def memoryRunRemediation (a : MemoryRunAudit) : MemoryRunRemediation where
  decisionId := a.decisionId
  traceId := a.traceId
  runId := a.runId
  status := a.status
  action := (memoryRunResolution a).1
  traceEvalResult := a.traceEvalResult
  decisionEvalResult := a.decisionEvalResult
  memoryCausedFailure := a.memoryCausedFailure
  resolvedEvalResult := (memoryRunResolution a).2.1
  resolvedMemoryCausedFailure := (memoryRunResolution a).2.2

structure MemoryRunMetrics where
  decisionCount : Nat
  pendingCount : Nat
  traceOnlyCount : Nat
  decisionOnlyCount : Nat
  completeCount : Nat
  conflictCount : Nat
  recoverableCount : Nat
  autoRecoverableCount : Nat
  attributionRequiredCount : Nat

structure RunTally where
  decisionCount : Nat := 0
  pendingCount : Nat := 0
  traceOnlyCount : Nat := 0
  decisionOnlyCount : Nat := 0
  completeCount : Nat := 0
  conflictCount : Nat := 0
  autoRecoverableCount : Nat := 0
  attributionRequiredCount : Nat := 0

def RunTally.addStatus (t : RunTally) : MemoryRunAuditStatus → RunTally
  | .pending => { t with pendingCount := t.pendingCount + 1 }
  | .traceOnly => { t with traceOnlyCount := t.traceOnlyCount + 1 }
  | .decisionOnly => { t with decisionOnlyCount := t.decisionOnlyCount + 1 }
  | .complete => { t with completeCount := t.completeCount + 1 }
  | .conflict => { t with conflictCount := t.conflictCount + 1 }

def RunTally.addAction (t : RunTally) : MemoryRunRemediationAction → RunTally
  | .recover => { t with autoRecoverableCount := t.autoRecoverableCount + 1 }
  | .recoverWithAttribution =>
    { t with attributionRequiredCount := t.attributionRequiredCount + 1 }
  | _ => t

def RunTally.add (t : RunTally) (a : MemoryRunAudit) : RunTally :=
  ({ t with decisionCount := t.decisionCount + 1 }.addStatus a.status).addAction
    (memoryRunRemediation a).action

def Store.tallyRun (s : Store) (t : RunTally) (log : MemoryUsageLog) : Except Exn RunTally := do
  let a ← s.memoryRunAudit log
  return t.add a

def Store.memoryRunMetrics (s : Store) : Except Exn MemoryRunMetrics := do
  let t ← accumulate s.tallyRun {} s.usageLogs
  return {
    decisionCount := t.decisionCount
    pendingCount := t.pendingCount
    traceOnlyCount := t.traceOnlyCount
    decisionOnlyCount := t.decisionOnlyCount
    completeCount := t.completeCount
    conflictCount := t.conflictCount
    recoverableCount := t.autoRecoverableCount + t.attributionRequiredCount
    autoRecoverableCount := t.autoRecoverableCount
    attributionRequiredCount := t.attributionRequiredCount }

end Runs

section Outcomes

structure MemoryOutcomeMetrics where
  memoryId : Str
  candidateCount : Nat
  usedCount : Nat
  blockedCount : Nat
  evaluatedUseCount : Nat
  passedUseCount : Nat
  failedOrErroredUseCount : Nat
  unevaluatedUseCount : Nat
  observedPassRate : Option Double

structure OutcomeCounters where
  candidate : Counter Str := Dict.empty
  used : Counter Str := Dict.empty
  blocked : Counter Str := Dict.empty
  passedUse : Counter Str := Dict.empty
  failedOrErroredUse : Counter Str := Dict.empty
  unevaluatedUse : Counter Str := Dict.empty

def OutcomeCounters.addUse (evalResult : Option EvalResult) (c : OutcomeCounters) (memoryId : Str) :
    OutcomeCounters :=
  if evalResult = some .pass then { c with passedUse := c.passedUse.add memoryId }
  else if evalResult = some .fail ∨ evalResult = some .error then
    { c with failedOrErroredUse := c.failedOrErroredUse.add memoryId }
  else { c with unevaluatedUse := c.unevaluatedUse.add memoryId }

def OutcomeCounters.add (c : OutcomeCounters) (log : MemoryUsageLog) : OutcomeCounters :=
  log.usedMemoryIds.foldl (OutcomeCounters.addUse log.evalResult)
    { c with
      candidate := c.candidate.update log.candidateMemoryIds
      used := c.used.update log.usedMemoryIds
      blocked := c.blocked.update log.blockedMemoryIds }

def Store.knownMemoryIds (s : Store) : List Str :=
  sortedStrs (s.failureCases.keys ++ s.lessons.keys ++ s.projectPolicies.keys).dedup

def OutcomeCounters.outcome (fl : FloatArithmetic) (c : OutcomeCounters) (memoryId : Str) :
    Except ArithmeticError MemoryOutcomeMetrics := do
  let passedUseCount := c.passedUse.count memoryId
  let failedOrErroredUseCount := c.failedOrErroredUse.count memoryId
  let evaluatedUseCount := passedUseCount + failedOrErroredUseCount
  let observedPassRate ←
    if evaluatedUseCount = 0 then pure none
    else some <$> fl.divideCounts passedUseCount evaluatedUseCount
  return {
    memoryId := memoryId
    candidateCount := c.candidate.count memoryId
    usedCount := c.used.count memoryId
    blockedCount := c.blocked.count memoryId
    evaluatedUseCount := evaluatedUseCount
    passedUseCount := passedUseCount
    failedOrErroredUseCount := failedOrErroredUseCount
    unevaluatedUseCount := c.unevaluatedUse.count memoryId
    observedPassRate := observedPassRate }

def Store.memoryOutcomeMetrics (fl : FloatArithmetic) (s : Store) :
    Except ArithmeticError (List MemoryOutcomeMetrics) :=
  collect ((s.usageLogs.foldl OutcomeCounters.add {}).outcome fl) s.knownMemoryIds

end Outcomes

end TraceBackedMemory
