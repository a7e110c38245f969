import TraceBackedMemory.Store.Operations

namespace TraceBackedMemory

open Text Raising

section Identifiers

def decisionAffix : Str := lit "decision_"

def requestAffix : Str := lit "gate_request_"

def decisionIdText (n : Nat) : Str := decisionAffix ++ padded 6 n

def requestIdText (session : SessionId) (n : Nat) : Str :=
  requestAffix ++ session.text ++ lit "_" ++ padded 6 n

def dropAffix (affix s : Str) : Option Str :=
  if affix.isPrefixOf s then some (s.drop affix.length) else none

def decisionNumber? (decisionId : Str) : Option Nat :=
  (dropAffix decisionAffix decisionId).bind parseDigits

def sessionSuffix? (s : Str) : Option Str :=
  if (s.take 32).length = 32 ∧ (s.take 32).all isLowerHex = true then
    dropAffix (lit "_") (s.drop 32)
  else none

def requestNumber? (requestId : Str) : Option Nat :=
  (dropAffix requestAffix requestId).bind (fun s =>
    ((sessionSuffix? s).bind parseDigits) <|> parseDigits s)

end Identifiers

section UsageLogs

def Store.nextNumbers (s : Store) (log : MemoryUsageLog) : Except Exn (Nat × Nat) := do
  raiseIf (s.usageLogIndexes.contains log.decisionId = true)
    (.valueError (lit "duplicate usage log decision_id: " ++ log.decisionId))
  return (
    (match decisionNumber? log.decisionId with
      | some n => max s.nextDecisionNumber (n + 1)
      | none => s.nextDecisionNumber),
    (match log.requestId.bind requestNumber? with
      | some n => max s.nextGateRequestNumber (n + 1)
      | none => s.nextGateRequestNumber))

def appendUsageLog (env : Env) (log : MemoryUsageLog) : Op Unit := do
  let (nextDecision, nextRequest) ← inspect (fun s => s.nextNumbers log)
  let logIndex ← inspect (fun s => .ok s.usageLogs.length)
  assign (fun s => { s with usageLogs := s.usageLogs ++ [log] })
  undoing
    (env.indexWrite (fun s => { s with
      usageLogIndexes := s.usageLogIndexes.set log.decisionId logIndex }))
    (fun s => { s with usageLogs := s.usageLogs.dropLast })
  assign (fun s => { s with nextDecisionNumber := nextDecision })
  assign (fun s => { s with nextGateRequestNumber := nextRequest })

def contextEvidence (c : MemoryContext) : Dict Str Str :=
  Dict.ofList (([(lit "mode", some c.mode.text), (lit "repo", some c.repo),
    (lit "commit_sha", some c.commitSha), (lit "branch", c.branch),
    (lit "prompt_version", c.promptVersion), (lit "prompt_family", c.promptFamily),
    (lit "tool", c.tool), (lit "tool_schema_version", c.toolSchemaVersion), (lit "model", c.model),
    (lit "model_family", c.modelFamily), (lit "eval_suite", c.evalSuite),
    (lit "task_type", c.taskType), (lit "failure_type", c.failureType), (lit "tenant", c.tenant),
    (lit "input_hash", c.inputHash)] : List (Str × Option Str)).filterMap
      (fun f => f.2.map (fun v => (f.1, v))))

structure LogOutcome where
  evalResult : Option EvalResult := none
  memoryCausedFailure : Bool := false

def Store.newUsageLog (s : Store) (now : Str) (t : Trace) (c : MemoryContext)
    (candidates : List MemoryItem) (d : MemoryDecision) (systemBlocked : Dict Str Str)
    (o : LogOutcome) (requestId : Option Str) : Except Exn MemoryUsageLog := do
  let log : MemoryUsageLog :=
    { decisionId := decisionIdText s.nextDecisionNumber
      runId := t.runId
      mode := c.mode
      candidateMemoryIds := candidates.map MemoryItem.memoryId
      usedMemoryIds := if d.useMemory then d.allowedMemoryIds else []
      blockedMemoryIds := d.blockedMemoryIds
      reason := d.reason
      risk := d.risk
      recommendedInjection := d.recommendedInjection
      evalResult := o.evalResult
      memoryCausedFailure := o.memoryCausedFailure
      traceId := some t.traceId
      context := contextEvidence c
      candidateMemoryStatuses := Dict.ofList (candidates.map (fun m => (m.memoryId, m.status)))
      systemBlockedReasons := systemBlocked
      createdAt := some now
      requestId := requestId }
  validateUsageLog log
  s.validateUsageLogMemoryIds log
  s.validateUsageLogTrace log
  return log

end UsageLogs

section Gate

def contextFieldMismatch (fieldName : Str) (t : Trace) : Exn :=
  .valueError (lit "trace " ++ fieldName ++ lit " does not match memory context: " ++ t.traceId)

def validateTraceContext (t : Trace) (c : MemoryContext) : Except Exn Unit := do
  validateMemoryContext c
  raiseIf (t.repo ≠ some c.repo) (contextFieldMismatch (lit "repo") t)
  raiseIf (t.commitSha ≠ c.commitSha) (contextFieldMismatch (lit "commit_sha") t)
  raiseIf (t.tenant ≠ c.tenant) (contextFieldMismatch (lit "tenant") t)
  checkEach (fun f => raiseIf (f.2.1 ≠ none ∧ f.2.2 ≠ f.2.1) (contextFieldMismatch f.1 t))
    [(lit "branch", c.branch, t.branch),
      (lit "prompt_version", c.promptVersion, t.promptVersion),
      (lit "prompt_family", c.promptFamily, t.promptFamily),
      (lit "tool_schema_version", c.toolSchemaVersion, t.toolSchemaVersion),
      (lit "model", c.model, t.model),
      (lit "eval_suite", c.evalSuite, t.evalSuite)]
  raiseIf (∃ tool ∈ c.tool.toList, tool ∉ traceToolNames t) (contextFieldMismatch (lit "tool") t)
  raiseIf (c.inputHash ≠ none ∧ t.inputHash ≠ c.inputHash)
    (contextFieldMismatch (lit "input_hash") t)

structure PrepareArguments where
  context : MemoryContext
  task : Str
  traceId : Option Str := none
  retrieval : Retrieval := {}
  contextSummary : Str := []

def Store.preparedTrace (s : Store) (a : PrepareArguments) : Except Exn (Option Trace) :=
  match a.traceId with
  | none => .ok none
  | some traceId => do
    validateRequiredString traceId (lit "trace_id") (lit "memory preparation requires")
      (some memoryIdMaxChars)
    let t ← demand (s.traces.get? traceId) (.valueError (lit "unknown trace_id: " ++ traceId))
    validateTraceContext t a.context
    return some t

def Store.pendingCandidateIds (s : Store) : Nat :=
  (s.pendingGateRequests.values.map (fun r => r.candidateMemoryIds.length)).sum

def Store.preparedRequest (py : Python) (s : Store) (a : PrepareArguments) :
    Except Exn MemoryGateRequest := do
  validateMemoryContext a.context
  raiseIf (pendingGateRequestMaxItems ≤ s.pendingGateRequests.size)
    (.valueError (lit "store has reached the pending gate request limit of " ++
      decimal pendingGateRequestMaxItems))
  let t ← s.preparedTrace a
  let candidates ← s.candidateMemories py a.context a.retrieval gateRequestMaxCandidates
  raiseIf (pendingGateRequestMaxCandidateIds < s.pendingCandidateIds + candidates.length)
    (.valueError (lit "store has reached the pending gate candidate budget of " ++
      decimal pendingGateRequestMaxCandidateIds))
  let g ← boundedSystemGate py a.context candidates
  let prompt ← buildLlmGatePrompt py a.context g.1 a.task a.contextSummary
  return { requestId := requestIdText s.gateRequestSessionId s.nextGateRequestNumber
           context := a.context
           candidateMemoryIds := candidates.map MemoryItem.memoryId
           systemAllowedMemoryIds := g.1.map MemoryItem.memoryId
           systemBlocked := g.2.entries
           prompt := prompt
           storeToken := s.storeToken
           traceId := t.map Trace.traceId
           runId := t.map Trace.runId }

def prepareMemory (py : Python) (a : PrepareArguments) : Op MemoryGateRequest := do
  let request ← inspect (fun s => s.preparedRequest py a)
  assign (fun s => { s with nextGateRequestNumber := s.nextGateRequestNumber + 1 })
  assign (fun s => { s with
    pendingGateRequests := s.pendingGateRequests.set request.requestId request })
  return request

def foreignRequest : Exn := valueError "gate request does not belong to this store"

def Store.checkPending (s : Store) (r : MemoryGateRequest) : Except Exn Unit := do
  raiseIf (r.requestId ∈ s.finalizedGateRequestIds)
    (.valueError (lit "gate request already finalized: " ++ r.requestId))
  let pending ← demand (s.pendingGateRequests.get? r.requestId) foreignRequest
  raiseIf (r.same pending = false) foreignRequest

def Store.checkRequest (s : Store) (r : MemoryGateRequest) : Except Exn Unit := do
  raiseIf (r.storeToken ≠ s.storeToken) foreignRequest
  validateRequiredString r.requestId (lit "request_id") (lit "gate request records require")
    (some memoryIdMaxChars)

structure FinalizeArguments where
  request : MemoryGateRequest
  payload : DecisionPayload
  traceId : Str
  outcome : LogOutcome := {}

structure Finalization where
  log : MemoryUsageLog
  result : GatedMemoryResult

def Store.finalization (py : Python) (env : Env) (s : Store) (a : FinalizeArguments) :
    Except Exn Finalization := do
  let r := a.request
  s.checkRequest r
  validateMemoryContext r.context
  validateRequiredString a.traceId (lit "trace_id") (lit "finalization requires")
    (some memoryIdMaxChars)
  s.checkPending r
  raiseIf (r.traceId ≠ none ∧ r.traceId ≠ some a.traceId)
    (.valueError (lit "gate request is bound to trace_id " ++ r.traceId.getD [] ++ lit ", not " ++
      a.traceId))
  let t ← demand (s.traces.get? a.traceId) (.valueError (lit "unknown trace_id: " ++ a.traceId))
  raiseIf (r.runId ≠ none ∧ r.runId ≠ some t.runId)
    (.valueError (lit "gate request run_id does not match its bound trace: " ++ r.runId.getD []))
  validateTraceContext t r.context
  let candidates ← s.memoryItems py r.candidateMemoryIds
  let g ← boundedSystemGate py r.context candidates
  let decision ← parseMemoryDecision py a.payload
  let (finalAllowed, finalDecision) ← applyLlmGateDecision py g.1 g.2 decision
  let snippet ← buildInjectionSnippet py finalAllowed finalDecision r.context
  let log ← s.newUsageLog env.now t r.context candidates finalDecision g.2 a.outcome
    (some r.requestId)
  return ⟨log,
    { requestId := r.requestId
      traceId := t.traceId
      decisionId := log.decisionId
      useMemory := finalDecision.useMemory
      allowedMemoryIds := finalDecision.allowedMemoryIds
      blockedMemoryIds := finalDecision.blockedMemoryIds
      reason := finalDecision.reason
      risk := finalDecision.risk
      recommendedInjection := finalDecision.recommendedInjection
      snippet := snippet }⟩

def popPending (requestId : Str) : Op Unit := do
  let _ ← inspect (fun s => demand (s.pendingGateRequests.get? requestId) (.keyError requestId))
  assign (fun s => { s with pendingGateRequests := s.pendingGateRequests.erase requestId })

def trimFinalized (limit : Nat) : List Str → List Str → List Str × List Str
  | [], ids => ([], ids)
  | r :: order, ids =>
    if limit < (r :: order).length then
      trimFinalized limit order (ids.filter (fun i => decide (i ≠ r)))
    else (r :: order, ids)

def finalizeMemory (py : Python) (env : Env) (a : FinalizeArguments) : Op GatedMemoryResult := do
  let f ← inspect (fun s => s.finalization py env a)
  appendUsageLog env f.log
  popPending a.request.requestId
  assign (fun s => { s with
    finalizedGateRequestIds := s.finalizedGateRequestIds.insert a.request.requestId })
  assign (fun s => { s with
    finalizedGateRequestOrder := s.finalizedGateRequestOrder ++ [a.request.requestId] })
  assign (fun s => { s with
    finalizedGateRequestOrder :=
      (trimFinalized finalizedGateRequestMaxItems s.finalizedGateRequestOrder
        s.finalizedGateRequestIds).1
    finalizedGateRequestIds :=
      (trimFinalized finalizedGateRequestMaxItems s.finalizedGateRequestOrder
        s.finalizedGateRequestIds).2 })
  return f.result

def Store.checkCancellation (s : Store) (r : MemoryGateRequest) : Except Exn Unit := do
  s.checkRequest r
  s.checkPending r

def cancelMemoryRequest (r : MemoryGateRequest) : Op Unit := do
  inspect (fun s => s.checkCancellation r)
  popPending r.requestId

structure LogArguments where
  runId : Str
  context : MemoryContext
  candidateMemoryIds : List Str
  decision : MemoryDecision
  outcome : LogOutcome := {}

def Store.loggedDecision (py : Python) (env : Env) (s : Store) (a : LogArguments) :
    Except Exn MemoryUsageLog := do
  validateRequiredString a.runId (lit "run_id") (lit "usage logging requires")
    (some memoryIdMaxChars)
  validateMemoryContext a.context
  raiseIf (gateRequestMaxCandidates < a.candidateMemoryIds.length)
    (.valueError (lit "usage log candidate limit exceeded: " ++
      decimal a.candidateMemoryIds.length ++ lit " > " ++ decimal gateRequestMaxCandidates))
  validateMemoryIdList a.candidateMemoryIds (lit "candidate_memory_ids")
  let t ← s.traceForRunId a.runId
  validateTraceContext t a.context
  let candidates ← s.memoryItems py a.candidateMemoryIds
  let g ← systemGate py a.context candidates
  let decision ← parseMemoryDecision py (.mapping a.decision.asDict)
  refuseListed "memory ids cannot be both allowed and blocked: "
    (sortedStrs (decision.allowedMemoryIds.filter
      (fun i => decide (i ∈ decision.blockedMemoryIds))))
  let (_, finalDecision) ← applyLlmGateDecision py g.1 g.2 decision
  s.newUsageLog env.now t a.context candidates finalDecision g.2 a.outcome none

def logDecision (py : Python) (env : Env) (a : LogArguments) : Op MemoryUsageLog := do
  let log ← inspect (fun s => s.loggedDecision py env a)
  appendUsageLog env log
  return log

structure SealedDecision where
  logIndex : Nat
  log : MemoryUsageLog

def Store.sealedDecision (s : Store) (decisionId : Str) (evalResult : EvalResult)
    (memoryCausedFailure : Bool) : Except Exn SealedDecision := do
  validateRequiredString decisionId (lit "decision_id") (lit "decision outcome requires")
    (some memoryIdMaxChars)
  validateMeasuredOutcome evalResult memoryCausedFailure
  let logIndex ← s.usageLogIndex decisionId
  let current ← s.usageLogAt logIndex
  let sealed ← sealedUsageOutcomeCandidate current evalResult memoryCausedFailure
  s.validateUsageLogMemoryIds sealed
  s.validateUsageLogTrace sealed
  return ⟨logIndex, sealed⟩

def recordDecisionOutcome (decisionId : Str) (evalResult : EvalResult)
    (memoryCausedFailure : Bool) : Op MemoryUsageLog := do
  let d ← inspect (fun s => s.sealedDecision decisionId evalResult memoryCausedFailure)
  assign (fun s => { s with usageLogs := s.usageLogs.set d.logIndex d.log })
  return d.log

end Gate

end TraceBackedMemory
