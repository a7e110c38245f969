import TraceBackedMemory.Store.Completion
import TraceBackedMemory.Store.LessonsYaml

namespace TraceBackedMemory

open Text Raising

abbrev Op (α : Type) := Program Exn Store α

structure Env where
  now : Str
  interrupted : Bool := false

def Env.indexWrite (env : Env) (f : Store → Store) : Op Unit := do
  inspect (fun _ => raiseIf (env.interrupted = true) .interrupt)
  assign f

section Traces

def Store.checkNewTrace (py : Python) (s : Store) (t : Trace) : Except Exn Unit := do
  validateTrace py t
  raiseIf (s.traces.contains t.traceId = true)
    (.valueError (lit "duplicate trace_id: " ++ t.traceId))

def recordTrace (py : Python) (env : Env) (t : Trace) : Op Trace := do
  inspect (fun s => s.checkNewTrace py t)
  let traceIds ← inspect (fun s => .ok (s.traceIdsByRunId.get? t.runId))
  assign (fun s => { s with traces := s.traces.set t.traceId t })
  undoing
    (env.indexWrite (fun s => { s with
      traceIdsByRunId := s.traceIdsByRunId.set t.runId (traceIds.getD [] ++ [t.traceId]) }))
    (fun s => { s with
      traces := s.traces.erase t.traceId
      traceIdsByRunId :=
        match traceIds with
        | none => s.traceIdsByRunId.erase t.runId
        | some _ =>
          if ((s.traceIdsByRunId.get? t.runId).getD []).getLast? = some t.traceId then
            s.traceIdsByRunId.set t.runId ((s.traceIdsByRunId.get? t.runId).getD []).dropLast
          else s.traceIdsByRunId })
  return t

def Store.completedTrace (py : Python) (s : Store) (traceId : Str) (evalResult : EvalResult)
    (a : CompletionArguments) : Except Exn Trace := do
  validateRequiredString traceId (lit "trace_id") (lit "trace completion requires")
    (some memoryIdMaxChars)
  validateMeasuredEvalResult evalResult (lit "trace completion")
  let current ← demand (s.traces.get? traceId)
    (.valueError (lit "unknown trace_id: " ++ traceId))
  completedTraceCandidate py current evalResult a.provided

def completeTrace (py : Python) (traceId : Str) (evalResult : EvalResult)
    (a : CompletionArguments) : Op Trace := do
  let completed ← inspect (fun s => s.completedTrace py traceId evalResult a)
  assign (fun s => { s with traces := s.traces.set traceId completed })
  return completed

structure CompletedRun where
  logIndex : Nat
  trace : Trace
  log : MemoryUsageLog

def Store.completedRun (py : Python) (s : Store) (traceId decisionId : Str)
    (evalResult : EvalResult) (memoryCausedFailure : Bool) (a : CompletionArguments) :
    Except Exn CompletedRun := do
  validateRequiredString traceId (lit "trace_id") (lit "memory run completion requires")
    (some memoryIdMaxChars)
  validateRequiredString decisionId (lit "decision_id") (lit "memory run completion requires")
    (some memoryIdMaxChars)
  validateMeasuredOutcome evalResult memoryCausedFailure
  let currentTrace ← demand (s.traces.get? traceId)
    (.valueError (lit "unknown trace_id: " ++ traceId))
  let logIndex ← s.usageLogIndex decisionId
  let currentLog ← s.usageLogAt logIndex
  raiseIf (currentLog.traceId ≠ some traceId ∨ currentLog.runId ≠ currentTrace.runId)
    (.valueError (lit "decision_id " ++ decisionId ++ lit " does not belong to trace_id " ++
      traceId))
  let completed ← completedTraceCandidate py currentTrace evalResult a.provided
  let sealed ← sealedUsageOutcomeCandidate currentLog evalResult memoryCausedFailure
  s.validateUsageLogMemoryIds sealed
  s.validateUsageLogTrace sealed
  return ⟨logIndex, completed, sealed⟩

def completeMemoryRun (py : Python) (traceId decisionId : Str) (evalResult : EvalResult)
    (memoryCausedFailure : Bool) (a : CompletionArguments) : Op MemoryRunCompletion := do
  let run ← inspect (fun s => s.completedRun py traceId decisionId evalResult memoryCausedFailure a)
  assign (fun s => { s with traces := s.traces.set traceId run.trace })
  assign (fun s => { s with usageLogs := s.usageLogs.set run.logIndex run.log })
  return ⟨run.trace, run.log⟩

structure CompletionRow where
  logIndex : Nat
  traceId : Str
  evalResult : EvalResult
  memoryCausedFailure : Bool
  values : List CompletionValue

structure StagedTraces where
  results : Dict Str EvalResult := Dict.empty
  values : Dict Str (List CompletionValue) := Dict.empty

def mergeValue (traceId : Str) (merged : List CompletionValue) (v : CompletionValue) :
    Except Exn (List CompletionValue) := do
  raiseIf (∃ w ∈ merged, w.field = v.field ∧ w.pyEq v = false)
    (.valueError (lit "shared trace has conflicting completion evidence for " ++ v.field.text ++
      lit ": " ++ traceId))
  return if merged.any (fun w => decide (w.field = v.field)) then
      merged.map (fun w => if w.field = v.field then v else w)
    else merged ++ [v]

def Store.stageRow (py : Python) (s : Store) (staged : StagedTraces) (row : CompletionRow) :
    Except Exn StagedTraces := do
  raiseIf (∃ r ∈ (staged.results.get? row.traceId).toList, r ≠ row.evalResult)
    (.valueError (lit "shared trace has conflicting outcomes: " ++ row.traceId))
  let current ← demand (s.traces.get? row.traceId) (.keyError row.traceId)
  let normalized ← completedTraceCandidate py current row.evalResult row.values
  let merged ← accumulate (mergeValue row.traceId) ((staged.values.get? row.traceId).getD [])
    (row.values.map (fun v => normalized.slot v.field))
  return ⟨staged.results.set row.traceId row.evalResult, staged.values.set row.traceId merged⟩

def Store.stageTrace (py : Python) (s : Store) (staged : StagedTraces) (p : Str × EvalResult) :
    Except Exn (Str × Trace) := do
  let current ← demand (s.traces.get? p.1) (.keyError p.1)
  let completed ← completedTraceCandidate py current p.2 ((staged.values.get? p.1).getD [])
  return (p.1, completed)

def Store.stageLog (s : Store) (row : CompletionRow) : Except Exn (Nat × MemoryUsageLog) := do
  let current ← s.usageLogAt row.logIndex
  let sealed ← sealedUsageOutcomeCandidate current row.evalResult row.memoryCausedFailure
  s.validateUsageLogMemoryIds sealed
  s.validateUsageLogTrace sealed
  return (row.logIndex, sealed)

structure StagedCompletions where
  traces : Dict Str Trace
  logs : Dict Nat MemoryUsageLog
  completions : List MemoryRunCompletion

def stagedCompletion (traces : Dict Str Trace) (logs : Dict Nat MemoryUsageLog)
    (row : CompletionRow) : Except Exn MemoryRunCompletion := do
  let t ← demand (traces.get? row.traceId) (.keyError row.traceId)
  let log ← demand (logs.get? row.logIndex) .indexError
  return ⟨t, log⟩

def Store.stageMemoryRunCompletions (py : Python) (s : Store) (rows : List CompletionRow) :
    Except Exn StagedCompletions := do
  let staged ← accumulate (s.stageRow py) {} rows
  let completed ← collect (s.stageTrace py staged) staged.results.entries
  let sealed ← collect s.stageLog rows
  let completions ← collect (stagedCompletion (Dict.ofList completed) (Dict.ofList sealed)) rows
  return ⟨Dict.ofList completed, Dict.ofList sealed, completions⟩

def setLogs (logs : List MemoryUsageLog) (sealed : List (Nat × MemoryUsageLog)) :
    List MemoryUsageLog :=
  sealed.foldl (fun logs p => logs.set p.1 p.2) logs

def writeCompletions (staged : StagedCompletions) : Op Unit := do
  assign (fun s => { s with traces := s.traces.update staged.traces.entries })
  assign (fun s => { s with usageLogs := setLogs s.usageLogs staged.logs.entries })

def validateMemoryRunResult (r : MemoryRunResult) : Except Exn Unit := do
  validateRequiredString r.decisionId (lit "decision_id") (lit "memory run results require")
    (some memoryIdMaxChars)
  validateMeasuredOutcome r.evalResult r.memoryCausedFailure

def validatedMemoryRunResults (results : List MemoryRunResult) : Except Exn Unit := do
  raiseIf (results.length = 0)
    (valueError "memory run batch completion requires a non-empty MemoryRunResult tuple")
  raiseIf (memoryRunBatchMaxItems < results.length)
    (.valueError (lit "memory run batch completion accepts at most " ++
      decimal memoryRunBatchMaxItems ++ lit " results"))
  checkEach validateMemoryRunResult results
  raiseIf (¬(results.map MemoryRunResult.decisionId).Nodup)
    (valueError "memory run batch completion requires unique decision_ids")

def Store.resultRow (s : Store) (r : MemoryRunResult) : Except Exn CompletionRow := do
  let logIndex ← s.usageLogIndex r.decisionId
  let log ← s.usageLogAt logIndex
  return ⟨logIndex, log.traceId.getD [], r.evalResult, r.memoryCausedFailure,
    memoryRunResultCompletionValues r⟩

def Store.stagedResults (py : Python) (s : Store) (results : List MemoryRunResult) :
    Except Exn StagedCompletions := do
  validatedMemoryRunResults results
  let rows ← collect s.resultRow results
  s.stageMemoryRunCompletions py rows

def completeMemoryRuns (py : Python) (results : List MemoryRunResult) :
    Op (List MemoryRunCompletion) := do
  let staged ← inspect (fun s => s.stagedResults py results)
  writeCompletions staged
  return staged.completions

structure ResolvedRun where
  traceId : Str
  evalResult : EvalResult
  memoryCausedFailure : Bool

def Store.resolvedRun (s : Store) (decisionId : Str) (memoryCausedFailure : Option Bool) :
    Except Exn ResolvedRun := do
  validateRequiredString decisionId (lit "decision_id") (lit "memory run recovery requires")
    (some memoryIdMaxChars)
  let logIndex ← s.usageLogIndex decisionId
  let log ← s.usageLogAt logIndex
  let traceId := log.traceId.getD []
  let t ← demand (s.traces.get? traceId) (.keyError traceId)
  let resolved ← resolvedMemoryRunRecovery t log memoryCausedFailure
  return ⟨traceId, resolved.1, resolved.2⟩

def recoverMemoryRun (py : Python) (decisionId : Str) (memoryCausedFailure : Option Bool)
    (a : CompletionArguments) : Op MemoryRunCompletion := do
  let run ← inspect (fun s => s.resolvedRun decisionId memoryCausedFailure)
  completeMemoryRun py run.traceId decisionId run.evalResult run.memoryCausedFailure a

def validatedBatchRecoveryDecisionIds (decisionIds : List Str) : Except Exn Unit := do
  raiseIf (decisionIds = [])
    (valueError "memory run batch recovery requires a non-empty decision_id tuple")
  raiseIf (memoryRunBatchMaxItems < decisionIds.length)
    (.valueError (lit "memory run batch recovery accepts at most " ++
      decimal memoryRunBatchMaxItems ++ lit " decision IDs"))
  checkEach (fun d => validateRequiredString d (lit "decision_id")
    (lit "memory run batch recovery requires") (some memoryIdMaxChars)) decisionIds
  raiseIf (¬decisionIds.Nodup)
    (valueError "memory run batch recovery requires unique decision_ids")

def validatedBatchRecoveryAttributions (attributions : Dict Str Bool) (decisionIds : List Str) :
    Except Exn Unit := do
  raiseIf (∃ k ∈ attributions.keys, k = [] ∨ memoryIdMaxChars < k.length)
    (valueError "memory_caused_failures must contain decision_id keys")
  refuseListed "memory_caused_failures contains unrequested decision_id: "
    (sortedStrs (attributions.keys.filter (fun k => decide (k ∉ decisionIds))))

def Store.recoveryRow (s : Store) (attributions : Dict Str Bool) (decisionId : Str) :
    Except Exn CompletionRow := do
  let logIndex ← s.usageLogIndex decisionId
  let log ← s.usageLogAt logIndex
  let traceId := log.traceId.getD []
  let t ← demand (s.traces.get? traceId) (.keyError traceId)
  let resolved ← resolvedMemoryRunRecovery t log (attributions.get? decisionId)
  return ⟨logIndex, traceId, resolved.1, resolved.2, []⟩

def Store.stagedRecoveries (py : Python) (s : Store) (decisionIds : List Str)
    (attributions : Dict Str Bool) : Except Exn StagedCompletions := do
  validatedBatchRecoveryDecisionIds decisionIds
  validatedBatchRecoveryAttributions attributions decisionIds
  let rows ← collect (s.recoveryRow attributions) decisionIds
  s.stageMemoryRunCompletions py rows

def recoverMemoryRuns (py : Python) (decisionIds : List Str) (attributions : Dict Str Bool) :
    Op (List MemoryRunCompletion) := do
  let staged ← inspect (fun s => s.stagedRecoveries py decisionIds attributions)
  writeCompletions staged
  return staged.completions

def Store.recoverReady (s : Store) (log : MemoryUsageLog) : Except Exn (Option Str) := do
  let traceId := log.traceId.getD []
  let t ← demand (s.traces.get? traceId) (.keyError traceId)
  match memoryRunAuditStatus t.evalResult log.evalResult with
  | .traceOnly => return if t.evalResult = .pass then some log.decisionId else none
  | .decisionOnly => return some log.decisionId
  | _ => return none

def recoverReadyMemoryRuns (py : Python) : Op (List MemoryRunCompletion) := do
  let ready ← inspect (fun s => collect s.recoverReady
    (s.usageLogs.insertionSort (fun a b => a.decisionId ≤ b.decisionId)))
  if ready.filterMap id = [] then return []
  else recoverMemoryRuns py (ready.filterMap id) Dict.empty

end Traces

section Memories

def Store.checkNewFailureCase (s : Store) (c : FailureCase) : Except Exn Unit := do
  validateFailureCase c
  raiseIf (s.failureCases.contains c.caseId = true)
    (.valueError (lit "duplicate case_id: " ++ c.caseId))
  raiseIf (s.lessons.contains c.caseId = true ∨ s.projectPolicies.contains c.caseId = true)
    (.valueError (lit "duplicate memory_id across memory types: " ++ c.caseId))
  let t ← demand (s.traces.get? c.sourceTraceId)
    (.valueError (lit "missing source_trace_id: " ++ c.sourceTraceId))
  raiseIf (t.evalResult.failing = false)
    (.valueError (lit "failure case requires a failed or errored source trace: " ++ c.caseId))
  raiseIf (c.commitSha ≠ t.commitSha)
    (.valueError (lit "failure case commit_sha does not match source trace: " ++ c.caseId))

def addFailureCase (c : FailureCase) : Op FailureCase := do
  inspect (fun s => s.checkNewFailureCase c)
  assign (fun s => { s with failureCases := s.failureCases.set c.caseId c })
  return c

def Store.reviewedFailureCase (env : Env) (s : Store) (caseId : Str) (r : CaseReview) :
    Except Exn FailureCase := do
  let current ← storedRecord s.failureCases caseId (lit "failure case")
  let reviewed ← transitionReviewFailureCase env.now current r
  validateFailureCase reviewed
  return reviewed

def reviewFailureCase (env : Env) (caseId : Str) (r : CaseReview) : Op FailureCase := do
  let reviewed ← inspect (fun s => s.reviewedFailureCase env caseId r)
  assign (fun s => { s with failureCases := s.failureCases.set caseId reviewed })
  return reviewed

def Store.verifiedFailureCase (s : Store) (caseId : Str) (v : CaseVerification) :
    Except Exn FailureCase := do
  let current ← storedRecord s.failureCases caseId (lit "failure case")
  let verified ← transitionVerifyFailureCase current v
  validateFailureCase verified
  return verified

def verifyFailureCase (caseId : Str) (v : CaseVerification) : Op FailureCase := do
  let verified ← inspect (fun s => s.verifiedFailureCase caseId v)
  assign (fun s => { s with failureCases := s.failureCases.set caseId verified })
  return verified

def validateStoredLesson (py : Python) (l : Lesson) : Except Exn Unit := do
  validateLessonRecord l
  validateLessonContract py l.lessonText l.scope l.confidence

def validateStoredPolicy (py : Python) (p : ProjectPolicy) : Except Exn Unit := do
  validateProjectPolicy p
  validateLessonContract py p.policyText p.scope p.confidence

def dependentLessons (lessons : Dict Str Lesson) (caseId : Str) : Dict Str Lesson :=
  (lessons.filterEntries (fun _ l => decide (l.sourceCaseId = caseId ∧ l.status = .active))).mapValues
    (fun _ l => transitionLessonToObsolete l)

def Store.obsoletedDependents (py : Python) (s : Store) (caseId : Str)
    (obsoleteCase : FailureCase) : Except Exn (Dict Str Lesson) := do
  let obsoleteLessons := dependentLessons s.lessons caseId
  validateFailureCase obsoleteCase
  checkEach (validateStoredLesson py) obsoleteLessons.values
  return obsoleteLessons

def obsoleteFailureCase (py : Python) (caseId : Str) : Op FailureCase := do
  let current ← inspect (fun s => storedRecord s.failureCases caseId (lit "failure case"))
  if current.status = .obsolete then return current
  else
    let obsoleteCase := transitionFailureCaseToObsolete current
    let obsoleteLessons ← inspect (fun s => s.obsoletedDependents py caseId obsoleteCase)
    assign (fun s => { s with failureCases := s.failureCases.set caseId obsoleteCase })
    assign (fun s => { s with lessons := s.lessons.update obsoleteLessons.entries })
    return obsoleteCase

def preservesSource (l : Lesson) (fieldName : Str) (sourceValue : Option Str) : Except Exn Unit :=
  match sourceValue with
  | none => .ok ()
  | some v =>
    raiseIf (l.scope.get? fieldName ≠ some v)
      (.valueError (lit "lesson scope must preserve source " ++ fieldName ++ lit ": " ++ v))

def Store.validatedLessonCandidate (py : Python) (s : Store) (l : Lesson)
    (existing : Dict Str Lesson) : Except Exn Unit := do
  validateLessonRecord l
  raiseIf (existing.contains l.lessonId = true)
    (.valueError (lit "duplicate lesson_id: " ++ l.lessonId))
  raiseIf (s.failureCases.contains l.lessonId = true ∨ s.projectPolicies.contains l.lessonId = true)
    (.valueError (lit "duplicate memory_id across memory types: " ++ l.lessonId))
  validateLessonContract py l.lessonText l.scope l.confidence
  let c ← demand (s.failureCases.get? l.sourceCaseId)
    (.valueError (lit "missing source_case_id: " ++ l.sourceCaseId))
  raiseIf (c.status = .draft ∨ c.regressionPassed = false ∨
      (l.status = .active ∧ c.status ≠ .verified))
    (.valueError (lit "lesson requires verified source case: " ++ l.sourceCaseId))
  let t ← demand (s.traces.get? c.sourceTraceId)
    (.valueError (lit "missing source_trace_id: " ++ c.sourceTraceId))
  raiseIf (l.status = .active ∧ t.dirty = true)
    (.valueError (lit "active lesson requires a clean source trace: " ++ l.lessonId))
  preservesSource l (lit "repo") t.repo
  preservesSource l (lit "tenant") t.tenant

def addLesson (py : Python) (l : Lesson) : Op Lesson := do
  inspect (fun s => s.validatedLessonCandidate py l s.lessons)
  assign (fun s => { s with lessons := s.lessons.set l.lessonId l })
  return l

def obsoleteLesson (py : Python) (lessonId : Str) : Op Lesson := do
  let current ← inspect (fun s => storedRecord s.lessons lessonId (lit "lesson"))
  if current.status = .obsolete then return current
  else
    let obsolete := transitionLessonToObsolete current
    inspect (fun _ => validateStoredLesson py obsolete)
    assign (fun s => { s with lessons := s.lessons.set lessonId obsolete })
    return obsolete

def Store.checkNewProjectPolicy (py : Python) (s : Store) (p : ProjectPolicy) :
    Except Exn Unit := do
  validateProjectPolicy p
  raiseIf (s.projectPolicies.contains p.policyId = true)
    (.valueError (lit "duplicate policy_id: " ++ p.policyId))
  raiseIf (s.failureCases.contains p.policyId = true ∨ s.lessons.contains p.policyId = true)
    (.valueError (lit "duplicate memory_id across memory types: " ++ p.policyId))
  validateLessonContract py p.policyText p.scope p.confidence

def addProjectPolicy (py : Python) (p : ProjectPolicy) : Op ProjectPolicy := do
  inspect (fun s => s.checkNewProjectPolicy py p)
  assign (fun s => { s with projectPolicies := s.projectPolicies.set p.policyId p })
  return p

def obsoleteProjectPolicy (py : Python) (policyId : Str) : Op ProjectPolicy := do
  let current ← inspect (fun s => storedRecord s.projectPolicies policyId (lit "project policy"))
  if current.status = .obsolete then return current
  else
    let obsolete := transitionProjectPolicyToObsolete current
    inspect (fun _ => validateStoredPolicy py obsolete)
    assign (fun s => { s with projectPolicies := s.projectPolicies.set policyId obsolete })
    return obsolete

def validateObsolescenceRequest (r : MemoryObsolescenceRequest) : Except Exn Unit :=
  validateRequiredString r.memoryId (lit "memory_id") (lit "memory obsolescence requests require")
    (some memoryIdMaxChars)

def validatedMemoryObsolescenceRequests (requests : List MemoryObsolescenceRequest) :
    Except Exn Unit := do
  raiseIf (requests = [])
    (valueError "memory batch obsolescence requires a non-empty MemoryObsolescenceRequest tuple")
  checkEach validateObsolescenceRequest requests
  raiseIf (¬(requests.map MemoryObsolescenceRequest.memoryId).Nodup)
    (valueError "memory batch obsolescence requires unique memory_ids")

def requestedIds (kind : MemoryKind) (requests : List MemoryObsolescenceRequest) : List Str :=
  (requests.filter (fun r => decide (r.memoryKind = kind))).map MemoryObsolescenceRequest.memoryId

def Store.checkRequested (s : Store) (r : MemoryObsolescenceRequest) : Except Exn Unit :=
  match r.memoryKind with
  | .failureCase => do
    let _ ← storedRecord s.failureCases r.memoryId (lit "failure case")
  | .lesson => do
    let _ ← storedRecord s.lessons r.memoryId (lit "lesson")
  | .projectPolicy => do
    let _ ← storedRecord s.projectPolicies r.memoryId (lit "project policy")

structure ObsoletedMemories where
  cases : Dict Str FailureCase
  lessons : Dict Str Lesson
  policies : Dict Str ProjectPolicy

def Store.cascadingCaseIds (s : Store) (requestedCaseIds : List Str) : List Str :=
  requestedCaseIds.filter
    (fun i => (s.failureCases.get? i).any (fun c => decide (c.status ≠ .obsolete)))

def Store.obsoletedMemories (s : Store) (requests : List MemoryObsolescenceRequest) :
    ObsoletedMemories :=
  let caseIds := requestedIds .failureCase requests
  let lessonIds := requestedIds .lesson requests
  let policyIds := requestedIds .projectPolicy requests
  let cascading := s.cascadingCaseIds caseIds
  { cases := (s.failureCases.filterEntries (fun k _ => decide (k ∈ caseIds))).mapValues
      (fun _ c => if c.status = .obsolete then c else transitionFailureCaseToObsolete c)
    lessons := (s.lessons.filterEntries (fun k l => decide (k ∈ lessonIds ∨
        (l.sourceCaseId ∈ cascading ∧ l.status = .active)))).mapValues
      (fun _ l => if l.status = .obsolete then l else transitionLessonToObsolete l)
    policies := (s.projectPolicies.filterEntries (fun k _ => decide (k ∈ policyIds))).mapValues
      (fun _ p => if p.status = .obsolete then p else transitionProjectPolicyToObsolete p) }

inductive Memory where
  | failureCase (c : FailureCase)
  | lesson (l : Lesson)
  | projectPolicy (p : ProjectPolicy)

def ObsoletedMemories.memory? (o : ObsoletedMemories) (r : MemoryObsolescenceRequest) :
    Option Memory :=
  match r.memoryKind with
  | .failureCase => (o.cases.get? r.memoryId).map .failureCase
  | .lesson => (o.lessons.get? r.memoryId).map .lesson
  | .projectPolicy => (o.policies.get? r.memoryId).map .projectPolicy

def Store.checkObsolescence (py : Python) (s : Store)
    (requests : List MemoryObsolescenceRequest) : Except Exn ObsoletedMemories := do
  validatedMemoryObsolescenceRequests requests
  checkEach s.checkRequested requests
  let o := s.obsoletedMemories requests
  checkEach validateFailureCase o.cases.values
  checkEach (validateStoredLesson py) o.lessons.values
  checkEach (validateStoredPolicy py) o.policies.values
  return o

def obsoleteMemories (py : Python) (requests : List MemoryObsolescenceRequest) :
    Op (List Memory) := do
  let o ← inspect (fun s => s.checkObsolescence py requests)
  assign (fun s => { s with failureCases := s.failureCases.update o.cases.entries })
  assign (fun s => { s with lessons := s.lessons.update o.lessons.entries })
  assign (fun s => { s with projectPolicies := s.projectPolicies.update o.policies.entries })
  inspect (fun _ => collect (fun r => demand (o.memory? r) (.keyError r.memoryId)) requests)

def stageLesson (py : Python) (s : Store) (staged : Dict Str Lesson) (l : Lesson) :
    Except Exn (Dict Str Lesson) := do
  s.validatedLessonCandidate py l staged
  raiseIf (l.status ≠ .active)
    (.valueError (lit "active lessons YAML requires status 'active': " ++ l.lessonId))
  return staged.set l.lessonId l

def invalidLessonsYaml : Exn → Exn
  | .typeError e => .valueError (lit "invalid lessons YAML: " ++ e)
  | e => e

def lessonRecords (py : Python) (source : Except Exn Str) (maxLessons : Option Nat) :
    Except Exn (List YamlRecord) :=
  Except.mapError invalidLessonsYaml (source >>= fun text => lessonsFromYaml py text maxLessons)

def Store.stagedLessons (py : Python) (s : Store) (source : Except Exn Str)
    (maxLessons : Option Nat) : Except Exn (List Lesson) := do
  let records ← lessonRecords py source maxLessons
  let lessons ← collect (lessonOfRecord py) records
  let _ ← accumulate (stageLesson py s) s.lessons lessons
  return lessons

def loadLessonsYaml (py : Python) (source : Except Exn Str) (maxLessons : Option Nat) :
    Op (List Lesson) := do
  let lessons ← inspect (fun s => s.stagedLessons py source maxLessons)
  assign (fun s => { s with
    lessons := s.lessons.update (lessons.map (fun l => (l.lessonId, l))) })
  return lessons

end Memories

end TraceBackedMemory
