import TraceBackedMemory.Store.GateOperations

namespace TraceBackedMemory

open Text Raising

structure UsageLogRecord where
  log : MemoryUsageLog
  hasTraceId : Bool := true
  hasContext : Bool := true
  hasCandidateMemoryStatuses : Bool := true
  hasSystemBlockedReasons : Bool := true

structure Snapshot where
  isV2 : Bool := true
  traces : List Trace := []
  failureCases : List FailureCase := []
  lessons : List Lesson := []
  projectPolicies : List ProjectPolicy := []
  usageLogs : List UsageLogRecord := []

structure SnapshotLimits where
  maxRecordsPerCollection : Option Nat := some 100000
  maxTotalRecords : Option Nat := some 250000

def UsageLogRecord.asLog (r : UsageLogRecord) : MemoryUsageLog :=
  { r.log with
    traceId := if r.hasTraceId then r.log.traceId else none
    context := if r.hasContext then r.log.context else Dict.empty
    candidateMemoryStatuses :=
      if r.hasCandidateMemoryStatuses then r.log.candidateMemoryStatuses else Dict.empty
    systemBlockedReasons :=
      if r.hasSystemBlockedReasons then r.log.systemBlockedReasons else Dict.empty }

section Save

def sortedValues {α : Type} (d : Dict Str α) : List α := (sortedStrs d.keys).filterMap d.get?

def Store.toSnapshot (s : Store) : Snapshot where
  isV2 := true
  traces := sortedValues s.traces
  failureCases := sortedValues s.failureCases
  lessons := sortedValues s.lessons
  projectPolicies := sortedValues s.projectPolicies
  usageLogs := (s.usageLogs.insertionSort (fun a b => a.decisionId ≤ b.decisionId)).map
    (fun log => { log := log })

end Save

section Load

def snapshotField (name : String) : Str := lit "snapshot field " ++ quoted (lit name)

def validateSnapshotRecordCount (name : String) (count : Nat) (limit : Option Nat) :
    Except Exn Unit :=
  raiseIf (exceeds limit count = true)
    (.valueError (snapshotField name ++ lit " contains " ++ decimal count ++
      lit " records; maximum is " ++ decimal (limit.getD 0)))

def validateSnapshotCollectionLimits (data : Snapshot) (limits : SnapshotLimits) :
    Except Exn Unit := do
  checkEach (fun f => validateSnapshotRecordCount f.1 f.2 limits.maxRecordsPerCollection)
    [("traces", data.traces.length), ("failure_cases", data.failureCases.length),
      ("lessons", data.lessons.length), ("project_policies", data.projectPolicies.length),
      ("usage_logs", data.usageLogs.length)]
  let total := data.traces.length + data.failureCases.length + data.lessons.length +
    data.projectPolicies.length + data.usageLogs.length
  raiseIf (exceeds limits.maxTotalRecords total = true)
    (.valueError (lit "snapshot contains " ++ decimal total ++ lit " records; maximum is " ++
      decimal (limits.maxTotalRecords.getD 0)))

def validateV2UsageLogRecord (r : UsageLogRecord) : Except Exn Unit :=
  refuseListed "v2 usage log requires audit fields: "
    (([(lit "candidate_memory_statuses", r.hasCandidateMemoryStatuses),
      (lit "context", r.hasContext), (lit "system_blocked_reasons", r.hasSystemBlockedReasons),
      (lit "trace_id", r.hasTraceId)].filter (fun f => !f.2)).map Prod.fst)

def Store.legacyTrace (s : Store) (log : MemoryUsageLog) : Except Exn Trace :=
  if nonEmpty log.traceId then
    demand (s.traces.get? (log.traceId.getD []))
      (.valueError (lit "unknown trace_id: " ++ log.traceId.getD []))
  else do
    validateRequiredString log.runId (lit "run_id") (lit "trace lookup requires")
      (some memoryIdMaxChars)
    match s.traces.values.filter (fun t => decide (t.runId = log.runId)) with
    | [] => .error (.valueError (lit "unknown run_id: " ++ log.runId))
    | [t] => return t
    | _ => .error (.valueError (lit "run_id does not resolve to one trace: " ++ log.runId))

def legacyContext (log : MemoryUsageLog) (t : Trace) (repo : Str) : Dict Str Str :=
  if log.context.isEmpty then
    Dict.ofList ([(lit "mode", log.mode.text), (lit "repo", repo), (lit "commit_sha", t.commitSha)] ++
      (t.tenant.map (fun v => (lit "tenant", v))).toList)
  else log.context

def Store.legacyStatuses (py : Python) (s : Store) (log : MemoryUsageLog) :
    Except Exn (Dict Str Status) :=
  if log.candidateMemoryIds ≠ [] ∧ log.candidateMemoryStatuses.isEmpty = true then do
    let items ← s.memoryItems py log.candidateMemoryIds
    return Dict.ofList (items.map (fun m => (m.memoryId, m.status)))
  else .ok log.candidateMemoryStatuses

def Store.migrateLegacyUsageLog (py : Python) (s : Store) (r : UsageLogRecord) :
    Except Exn MemoryUsageLog := do
  let log := r.asLog
  validateMemoryIdList log.candidateMemoryIds (lit "candidate_memory_ids")
  let t ← s.legacyTrace log
  raiseIf (log.runId ≠ t.runId)
    (.valueError (lit "usage log run_id does not match trace: " ++ t.traceId))
  let repo ← demand t.repo
    (.valueError (lit "legacy usage log trace repo is required for context evidence: " ++ t.traceId))
  let statuses ← s.legacyStatuses py log
  return { log with
    traceId := some t.traceId
    context := legacyContext log t repo
    candidateMemoryStatuses := statuses }

def Store.snapshotLog (py : Python) (s : Store) (isV2 : Bool) (r : UsageLogRecord) :
    Except Exn MemoryUsageLog := do
  let log ← (if isV2 then do
      validateV2UsageLogRecord r
      return r.asLog
    else s.migrateLegacyUsageLog py r)
  validateUsageLog log
  s.validateUsageLogMemoryIds log
  s.validateUsageLogTrace log
  return log

def loadUsageLog (py : Python) (env : Env) (isV2 : Bool) (r : UsageLogRecord) : Op Unit := do
  let log ← inspect (fun s => s.snapshotLog py isV2 r)
  appendUsageLog env log

def loadSnapshot (py : Python) (env : Env) (data : Snapshot) : Op Unit := do
  forEach (recordTrace py env) data.traces
  forEach addFailureCase data.failureCases
  forEach (addLesson py) data.lessons
  forEach (addProjectPolicy py) data.projectPolicies
  forEach (loadUsageLog py env data.isV2) data.usageLogs

def fromSnapshot (py : Python) (env : Env) (token : Nat) (session : SessionId)
    (limits : SnapshotLimits) (data : Snapshot) : Except Exn Store := do
  validateSnapshotCollectionLimits data limits
  match loadSnapshot py env data (Store.fresh token session) with
  | .ok _ s => .ok s
  | .error e _ => .error e

end Load

end TraceBackedMemory
