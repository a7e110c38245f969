import TraceBackedMemory.Store.State

namespace TraceBackedMemory

open Text Raising

def memoryRunBatchMaxItems : Nat := 10000

section CompletionValues

inductive CompletionField where
  | outputHash
  | toolOutputs
  | latencyMs
  | costUsd
  | error
  | traceUri
  deriving DecidableEq

def CompletionField.text : CompletionField → Str
  | .outputHash => lit "output_hash"
  | .toolOutputs => lit "tool_outputs"
  | .latencyMs => lit "latency_ms"
  | .costUsd => lit "cost_usd"
  | .error => lit "error"
  | .traceUri => lit "trace_uri"

inductive CompletionValue where
  | outputHash (v : Option Str)
  | toolOutputs (v : List JsonObject)
  | latencyMs (v : Option Int)
  | costUsd (v : Option Number)
  | error (v : Option Str)
  | traceUri (v : Option Str)

def CompletionValue.field : CompletionValue → CompletionField
  | .outputHash _ => .outputHash
  | .toolOutputs _ => .toolOutputs
  | .latencyMs _ => .latencyMs
  | .costUsd _ => .costUsd
  | .error _ => .error
  | .traceUri _ => .traceUri

def Trace.slot (t : Trace) : CompletionField → CompletionValue
  | .outputHash => .outputHash t.outputHash
  | .toolOutputs => .toolOutputs t.toolOutputs
  | .latencyMs => .latencyMs t.latencyMs
  | .costUsd => .costUsd t.costUsd
  | .error => .error t.error
  | .traceUri => .traceUri t.traceUri

def Trace.write (t : Trace) : CompletionValue → Trace
  | .outputHash v => { t with outputHash := v }
  | .toolOutputs v => { t with toolOutputs := v }
  | .latencyMs v => { t with latencyMs := v }
  | .costUsd v => { t with costUsd := v }
  | .error v => { t with error := v }
  | .traceUri v => { t with traceUri := v }

def CompletionValue.isUnset : CompletionValue → Bool
  | .outputHash v => v.isNone
  | .toolOutputs v => v.isEmpty
  | .latencyMs v => v.isNone
  | .costUsd v => v.isNone
  | .error v => v.isNone
  | .traceUri v => v.isNone

def numberEq : Option Number → Option Number → Bool
  | none, none => true
  | some a, some b => a.eq b
  | _, _ => false

def jsonObjectsEq (a b : List JsonObject) : Bool := Json.pyEqItems (a.map .obj) (b.map .obj)

def CompletionValue.pyEq : CompletionValue → CompletionValue → Bool
  | .outputHash a, .outputHash b => decide (a = b)
  | .toolOutputs a, .toolOutputs b => jsonObjectsEq a b
  | .latencyMs a, .latencyMs b => decide (a = b)
  | .costUsd a, .costUsd b => numberEq a b
  | .error a, .error b => decide (a = b)
  | .traceUri a, .traceUri b => decide (a = b)
  | _, _ => false

def Trace.pyEq (a b : Trace) : Bool :=
  decide (a.traceId = b.traceId ∧ a.runId = b.runId ∧ a.commitSha = b.commitSha ∧
    a.repo = b.repo ∧ a.tenant = b.tenant ∧ a.branch = b.branch ∧ a.dirty = b.dirty ∧
    a.promptVersion = b.promptVersion ∧ a.promptFamily = b.promptFamily ∧
    a.toolSchemaVersion = b.toolSchemaVersion ∧ a.model = b.model ∧ a.evalSuite = b.evalSuite ∧
    a.inputHash = b.inputHash ∧ a.outputHash = b.outputHash) &&
    jsonObjectsEq a.retrievedContext b.retrievedContext && jsonObjectsEq a.toolCalls b.toolCalls &&
    jsonObjectsEq a.toolOutputs b.toolOutputs &&
    decide (a.evalResult = b.evalResult ∧ a.latencyMs = b.latencyMs) &&
    numberEq a.costUsd b.costUsd &&
    decide (a.error = b.error ∧ a.traceUri = b.traceUri ∧ a.createdAt = b.createdAt)

structure CompletionArguments where
  outputHash : Option (Option Str) := none
  toolOutputs : Option (List JsonObject) := none
  latencyMs : Option (Option Int) := none
  costUsd : Option (Option Number) := none
  error : Option (Option Str) := none
  traceUri : Option (Option Str) := none

def CompletionArguments.provided (a : CompletionArguments) : List CompletionValue :=
  (a.outputHash.map .outputHash).toList ++ (a.toolOutputs.map .toolOutputs).toList ++
    (a.latencyMs.map .latencyMs).toList ++ (a.costUsd.map .costUsd).toList ++
    (a.error.map .error).toList ++ (a.traceUri.map .traceUri).toList

def memoryRunResultCompletionValues (r : MemoryRunResult) : List CompletionValue :=
  (r.outputHash.map (fun v => .outputHash (some v))).toList ++
    (r.latencyMs.map (fun v => .latencyMs (some v))).toList ++
    (r.costUsd.map (fun v => .costUsd (some v))).toList ++
    (r.error.map (fun v => .error (some v))).toList ++
    (r.traceUri.map (fun v => .traceUri (some v))).toList ++
    (r.toolOutputs.map .toolOutputs).toList

def completionCandidate (current : Trace) (evalResult : EvalResult)
    (values : List CompletionValue) : Trace :=
  values.foldl Trace.write { current with evalResult := evalResult }

def completedTraceCandidate (py : Python) (current : Trace) (evalResult : EvalResult)
    (values : List CompletionValue) : Except Exn Trace := do
  let completed := completionCandidate current evalResult values
  validateTrace py completed
  if current.evalResult.evaluated then
    if completed.pyEq current then return current
    else .error (.valueError (lit "trace execution already completed: " ++ current.traceId))
  else
    checkEach (fun v => raiseIf
      ((current.slot v.field).isUnset = false ∧
        (current.slot v.field).pyEq (completed.slot v.field) = false)
      (.valueError (lit "trace completion cannot rewrite " ++ v.field.text ++ lit ": " ++
        current.traceId))) values
    return completed

end CompletionValues

section Outcomes

def validateMeasuredEvalResult (evalResult : EvalResult) (recordLabel : Str) : Except Exn Unit :=
  raiseIf (evalResult.evaluated = false)
    (.valueError (recordLabel ++ lit " requires measured eval_result: error, fail, or pass"))

def validateMeasuredOutcome (evalResult : EvalResult) (memoryCausedFailure : Bool) :
    Except Exn Unit := do
  validateMeasuredEvalResult evalResult (lit "decision outcome")
  raiseIf (memoryCausedFailure = true ∧ evalResult.failing = false)
    (valueError "memory_caused_failure requires eval_result fail or error")

def evaluated? : Option EvalResult → Bool
  | none => false
  | some r => r.evaluated

def sealedUsageOutcomeCandidate (current : MemoryUsageLog) (evalResult : EvalResult)
    (memoryCausedFailure : Bool) : Except Exn MemoryUsageLog :=
  if evaluated? current.evalResult then
    if current.evalResult = some evalResult ∧ current.memoryCausedFailure = memoryCausedFailure then do
      validateUsageLog current
      return current
    else .error (.valueError (lit "decision outcome already sealed: " ++ current.decisionId))
  else do
    let sealed := { current with
      evalResult := some evalResult
      memoryCausedFailure := memoryCausedFailure }
    validateUsageLog sealed
    return sealed

inductive MemoryRunAuditStatus where
  | pending
  | traceOnly
  | decisionOnly
  | complete
  | conflict
  deriving DecidableEq

def memoryRunAuditStatus (traceEvalResult : EvalResult) (decisionEvalResult : Option EvalResult) :
    MemoryRunAuditStatus :=
  match traceEvalResult.evaluated, evaluated? decisionEvalResult with
  | false, false => .pending
  | true, false => .traceOnly
  | false, true => .decisionOnly
  | true, true => if decisionEvalResult = some traceEvalResult then .complete else .conflict

def resolvedMemoryRunRecovery (t : Trace) (log : MemoryUsageLog)
    (memoryCausedFailure : Option Bool) : Except Exn (EvalResult × Bool) := do
  let resolved ←
    match memoryRunAuditStatus t.evalResult log.evalResult with
    | .pending =>
      .error (.valueError (lit "memory run has no measured outcome: " ++ log.decisionId))
    | .conflict =>
      .error (.valueError (lit "memory run has conflicting outcomes: " ++ log.decisionId))
    | .traceOnly =>
      match memoryCausedFailure with
      | some b => .ok (t.evalResult, b)
      | none =>
        if t.evalResult.failing then
          .error (valueError "failed or errored trace requires explicit memory_caused_failure")
        else .ok (t.evalResult, false)
    | _ => .ok (log.evalResult.getD .unknown, memoryCausedFailure.getD log.memoryCausedFailure)
  validateMeasuredOutcome resolved.1 resolved.2
  return resolved

end Outcomes

section UsageLogChecks

def Store.validateUsageLogMemoryIds (s : Store) (log : MemoryUsageLog) : Except Exn Unit :=
  refuseListed "usage log references unknown memory IDs: "
    (sortedStrs (((log.candidateMemoryIds ++ log.usedMemoryIds ++ log.blockedMemoryIds).dedup).filter
      (fun i => !s.memoryKnown i)))

def contextMismatch (fieldName : Str) (traceId : Str) (suffix : String) : Exn :=
  .valueError (lit "usage log context " ++ fieldName ++ lit " does not match " ++ lit suffix ++
    lit ": " ++ traceId)

def declaredTraceContext (t : Trace) : List (Str × Option Str) :=
  [(lit "branch", t.branch), (lit "prompt_version", t.promptVersion),
    (lit "prompt_family", t.promptFamily), (lit "tool_schema_version", t.toolSchemaVersion),
    (lit "model", t.model), (lit "eval_suite", t.evalSuite)]

def validateLogContext (log : MemoryUsageLog) (t : Trace) (traceId repo : Str) :
    Except Exn Unit := do
  checkEach (fun f => raiseIf (log.context.get? f.1 ≠ some f.2)
    (contextMismatch f.1 traceId "trace or mode"))
    ([(lit "mode", log.mode.text), (lit "repo", repo), (lit "commit_sha", t.commitSha)] ++
      (t.tenant.map (fun v => (lit "tenant", v))).toList)
  raiseIf (t.tenant = none ∧ log.context.contains (lit "tenant") = true)
    (contextMismatch (lit "tenant") traceId "trace or mode")
  checkEach (fun f => raiseIf (log.context.contains f.1 = true ∧ log.context.get? f.1 ≠ f.2)
    (contextMismatch f.1 traceId "trace")) (declaredTraceContext t)
  raiseIf (∃ tool ∈ (log.context.get? (lit "tool")).toList, tool ∉ traceToolNames t)
    (contextMismatch (lit "tool") traceId "trace")
  raiseIf (log.context.contains (lit "input_hash") = true ∧
      log.context.contains (lit "eval_suite") = false)
    (.valueError (lit "usage log context input_hash requires eval_suite: " ++ traceId))
  raiseIf (log.context.contains (lit "input_hash") = true ∧
      log.context.get? (lit "input_hash") ≠ t.inputHash)
    (contextMismatch (lit "input_hash") traceId "trace")

def Store.validateUsageLogTrace (s : Store) (log : MemoryUsageLog) : Except Exn Unit := do
  raiseIf (blank (log.traceId.getD []) = true) (valueError "usage log records require trace_id")
  let traceId := log.traceId.getD []
  let t ← demand (s.traces.get? traceId) (.valueError (lit "unknown trace_id: " ++ traceId))
  raiseIf (log.runId ≠ t.runId)
    (.valueError (lit "usage log run_id does not match trace: " ++ traceId))
  let repo ← demand t.repo
    (.valueError (lit "usage log trace repo is required for context evidence: " ++ traceId))
  validateLogContext log t traceId repo

end UsageLogChecks

end TraceBackedMemory
