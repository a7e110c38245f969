import TraceBackedMemory.Store.Timestamps
import Mathlib.Data.List.Sort
import Mathlib.Data.List.Dedup

namespace TraceBackedMemory

open Text Raising

def memoryIdMaxChars : Nat := 128

def metadataValueMaxChars : Nat := 512

def memoryTextMaxChars : Nat := 32000

def memoryDecisionReasonMaxChars : Nat := 2000

def traceLatencyMaxMs : Int := 2147483647

def traceJsonMaxDepth : Nat := 100

def traceJsonMaxNodes : Nat := 100000

def traceJsonMaxTextBytes : Nat := 8 * 1024 * 1024

def intMaxStrDigits : Nat := 4300

def blank (s : Str) : Bool := isBlank s

def commaSeparated (ids : List Str) : Str := joinWith (lit ", ") ids

def sortedStrs (l : List Str) : List Str := l.insertionSort (· ≤ ·)

section Strings

def tooLong (value : Str) (maxChars : Option Nat) : Bool :=
  match maxChars with
  | none => false
  | some n => decide (n < value.length)

def atMost (fieldName : Str) (maxChars : Option Nat) : Str :=
  fieldName ++ lit " must be at most " ++ decimal (maxChars.getD 0) ++ lit " characters"

def validateRequiredString (value fieldName messagePrefix : Str) (maxChars : Option Nat) :
    Except Exn Unit := do
  raiseIf (blank value = true) (.valueError (messagePrefix ++ lit " " ++ fieldName))
  raiseIf (tooLong value maxChars = true) (.valueError (atMost fieldName maxChars))

def validateOptionalString (value : Option Str) (fieldName recordLabel : Str) (nonblank : Bool)
    (maxChars : Option Nat) : Except Exn Unit :=
  match value with
  | none => .ok ()
  | some v => do
    raiseIf (v = [] ∨ (nonblank = true ∧ blank v = true))
      (.valueError (recordLabel ++ lit " " ++ fieldName ++
        lit " must be None or a non-empty string"))
    raiseIf (tooLong v maxChars = true)
      (.valueError (recordLabel ++ lit " " ++ atMost fieldName maxChars))

def validateOptionalRfc3339 (value : Option Str) (fieldName recordLabel : Str) : Except Exn Unit :=
  match value with
  | none => .ok ()
  | some v =>
    raiseIf (isRfc3339 v = false)
      (.valueError (recordLabel ++ lit " " ++ fieldName ++
        lit " must be None or a timezone-aware RFC 3339 date-time string"))

end Strings

section TraceJson

structure TraceJsonBudget where
  nodeCount : Nat := 0
  textBytes : Nat := 0

def tooManyNodes : Exn :=
  .valueError (lit "trace JSON contains more than " ++ decimal traceJsonMaxNodes ++ lit " nodes")

def tooMuchText (path : Str) : Exn :=
  .valueError (lit "trace JSON text exceeds " ++ decimal traceJsonMaxTextBytes ++
    lit " UTF-8 bytes at " ++ path)

def TraceJsonBudget.consumeNode (b : TraceJsonBudget) : Except Exn TraceJsonBudget := do
  raiseIf (traceJsonMaxNodes ≤ b.nodeCount) tooManyNodes
  return { b with nodeCount := b.nodeCount + 1 }

def TraceJsonBudget.ensureChildCapacity (b : TraceJsonBudget) (childCount : Nat) :
    Except Exn Unit :=
  raiseIf (traceJsonMaxNodes - b.nodeCount < childCount) tooManyNodes

def TraceJsonBudget.consumeText (b : TraceJsonBudget) (value path : Str) :
    Except Exn TraceJsonBudget := do
  let remaining := traceJsonMaxTextBytes - b.textBytes
  raiseIf (remaining < value.length) (tooMuchText path)
  let encoded ← demand (encodedBytes value)
    (.valueError (lit "trace " ++ path ++ lit " must be UTF-8 encodable"))
  raiseIf (remaining < encoded) (tooMuchText path)
  return { b with textBytes := b.textBytes + encoded }

def validateJsonInteger (value : Int) (path : Str) : Except Exn Unit :=
  raiseIf (10 ^ intMaxStrDigits ≤ value.natAbs)
    (.valueError (lit "trace " ++ path ++ lit " integer exceeds JSON serialization limits"))

def consumeKeys (path : Str) (keys : List Str) (b : TraceJsonBudget) :
    Except Exn TraceJsonBudget :=
  accumulate (fun b key => b.consumeText key (path ++ lit " object key")) b keys

def childPath (py : Python) (path key : Str) : Str :=
  if py.isIdentifier key then path ++ lit "." ++ key
  else path ++ lit "[" ++ dumpsString key ++ lit "]"

def itemPath (path : Str) (index : Nat) : Str := path ++ lit "[" ++ decimal index ++ lit "]"

def checkDepth (path : Str) (depth : Nat) : Except Exn Unit :=
  raiseIf (traceJsonMaxDepth ≤ depth)
    (.valueError (lit "trace " ++ path ++ lit " exceeds maximum nesting depth " ++
      decimal traceJsonMaxDepth))

mutual

def validateJsonValue (py : Python) (path : Str) (depth : Nat) (b : TraceJsonBudget) :
    Json → Except Exn TraceJsonBudget
  | .null => b.consumeNode
  | .bool _ => b.consumeNode
  | .str s => do
    let b ← b.consumeNode
    b.consumeText s path
  | .num (.int n) => do
    let b ← b.consumeNode
    validateJsonInteger n path
    return b
  | .num (.float x) => do
    let b ← b.consumeNode
    raiseIf (x.isFinite = false)
      (.valueError (lit "trace " ++ path ++ lit " must be a finite JSON number"))
    return b
  | .arr items => do
    let b ← b.consumeNode
    checkDepth path depth
    b.ensureChildCapacity items.length
    validateJsonItems py path depth 0 b items
  | .obj fields => do
    let b ← b.consumeNode
    checkDepth path depth
    b.ensureChildCapacity fields.length
    let b ← consumeKeys path (fields.reverse.map Prod.fst) b
    validateJsonFields py path depth b fields

def validateJsonItems (py : Python) (path : Str) (depth index : Nat) (b : TraceJsonBudget) :
    List Json → Except Exn TraceJsonBudget
  | [] => .ok b
  | v :: items => do
    let b ← validateJsonValue py (itemPath path index) (depth + 1) b v
    validateJsonItems py path depth (index + 1) b items

def validateJsonFields (py : Python) (path : Str) (depth : Nat) (b : TraceJsonBudget) :
    List (Str × Json) → Except Exn TraceJsonBudget
  | [] => .ok b
  | (key, v) :: fields => do
    let b ← validateJsonValue py (childPath py path key) (depth + 1) b v
    validateJsonFields py path depth b fields

end

def validateJsonObjects (py : Python) (fieldName : Str) (index : Nat) (b : TraceJsonBudget) :
    List JsonObject → Except Exn TraceJsonBudget
  | [] => .ok b
  | o :: objects => do
    let b ← validateJsonValue py (itemPath fieldName index) 0 b (.obj o)
    validateJsonObjects py fieldName (index + 1) b objects

def validateJsonObjectList (py : Python) (value : List JsonObject) (fieldName : Str)
    (budget : TraceJsonBudget) : Except Exn TraceJsonBudget := do
  let budget ← budget.consumeNode
  budget.ensureChildCapacity value.length
  validateJsonObjects py fieldName 0 budget value

end TraceJson

section Records

def validateLatency (latencyMs : Option Int) : Except Exn Unit :=
  match latencyMs with
  | none => .ok ()
  | some n => do
    validateJsonInteger n (lit "latency_ms")
    raiseIf (n < 0) (valueError "latency_ms must be non-negative")
    raiseIf (traceLatencyMaxMs < n)
      (.valueError (lit "latency_ms must be at most " ++ decimalInt traceLatencyMaxMs))

def validateCost (costUsd : Option Number) : Except Exn Unit :=
  match costUsd with
  | none => .ok ()
  | some n => do
    raiseIf (n.isFinite = false) (valueError "cost_usd must be a finite number or None")
    match n with
    | .float _ => return ()
    | .int m =>
      raiseIf (10 ^ intMaxStrDigits ≤ m.natAbs)
        (valueError ("cost_usd must be a finite number or None; " ++
          "integer exceeds JSON serialization limits"))

def Trace.optionalFields (t : Trace) : List (Str × Option Str × Option Nat) :=
  [(lit "repo", t.repo, some metadataValueMaxChars),
    (lit "tenant", t.tenant, some metadataValueMaxChars),
    (lit "branch", t.branch, some metadataValueMaxChars),
    (lit "prompt_version", t.promptVersion, some metadataValueMaxChars),
    (lit "prompt_family", t.promptFamily, some metadataValueMaxChars),
    (lit "tool_schema_version", t.toolSchemaVersion, some metadataValueMaxChars),
    (lit "model", t.model, some metadataValueMaxChars),
    (lit "eval_suite", t.evalSuite, some metadataValueMaxChars),
    (lit "input_hash", t.inputHash, some metadataValueMaxChars),
    (lit "output_hash", t.outputHash, some metadataValueMaxChars),
    (lit "error", t.error, none),
    (lit "trace_uri", t.traceUri, some metadataValueMaxChars)]

def validateTrace (py : Python) (t : Trace) : Except Exn Unit := do
  checkEach (fun f => validateRequiredString f.2 f.1 (lit "trace records require")
    (some memoryIdMaxChars)) [(lit "trace_id", t.traceId), (lit "run_id", t.runId)]
  validateRequiredString t.commitSha (lit "commit_sha") (lit "trace records require")
    (some metadataValueMaxChars)
  checkEach (fun f => validateOptionalString f.2.1 f.1 (lit "trace") false f.2.2) t.optionalFields
  validateLatency t.latencyMs
  validateCost t.costUsd
  let budget ← validateJsonObjectList py t.retrievedContext (lit "retrieved_context") {}
  let budget ← validateJsonObjectList py t.toolCalls (lit "tool_calls") budget
  let _ ← validateJsonObjectList py t.toolOutputs (lit "tool_outputs") budget
  validateOptionalRfc3339 t.createdAt (lit "created_at") (lit "trace")

def missing (value : Option Str) : Bool := value.getD [] = []

def FailureCase.optionalFields (c : FailureCase) : List (Str × Option Str × Option Nat) :=
  [(lit "root_cause", c.rootCause, none),
    (lit "fix", c.fix, none),
    (lit "fix_commit_sha", c.fixCommitSha, some metadataValueMaxChars),
    (lit "reviewed_by", c.reviewedBy, some metadataValueMaxChars),
    (lit "review_notes", c.reviewNotes, none)]

def FailureCase.unverifiable (c : FailureCase) : Bool :=
  missing c.fix || missing c.fixCommitSha || !c.regressionPassed || missing c.rootCause ||
    missing c.reviewedBy || missing c.reviewedAt

def validateFailureCase (c : FailureCase) : Except Exn Unit := do
  checkEach (fun f => validateRequiredString f.2 f.1 (lit "failure case records require")
    (some memoryIdMaxChars)) [(lit "case_id", c.caseId), (lit "source_trace_id", c.sourceTraceId)]
  checkEach (fun f => validateRequiredString f.2 f.1 (lit "failure case records require")
    (some metadataValueMaxChars))
    [(lit "commit_sha", c.commitSha), (lit "failure_type", c.failureType)]
  validateRequiredString c.symptom (lit "symptom") (lit "failure case records require") none
  checkEach (fun f => validateOptionalString f.2.1 f.1 (lit "failure case") true f.2.2)
    c.optionalFields
  raiseIf (c.status = .verified ∧ c.unverifiable = true)
    (valueError ("verified failure cases require completed review, fix, " ++
      "fix_commit_sha, and passing regression"))
  validateOptionalRfc3339 c.reviewedAt (lit "reviewed_at") (lit "failure case")
  validateOptionalRfc3339 c.createdAt (lit "created_at") (lit "failure case")

def validateMemoryText (text fieldName recordLabel : Str) : Except Exn Unit := do
  raiseIf (blank text = true) (.valueError (recordLabel ++ lit " records require " ++ fieldName))
  raiseIf (memoryTextMaxChars < text.length)
    (.valueError (recordLabel ++ lit " records require " ++ fieldName ++ lit " of at most " ++
      decimal memoryTextMaxChars ++ lit " characters"))

def validateLessonRecord (l : Lesson) : Except Exn Unit := do
  checkEach (fun f => validateRequiredString f.2 f.1 (lit "lesson records require")
    (some memoryIdMaxChars))
    [(lit "lesson_id", l.lessonId), (lit "source_case_id", l.sourceCaseId)]
  validateMemoryText l.lessonText (lit "lesson_text") (lit "lesson")
  validateOptionalRfc3339 l.createdAt (lit "created_at") (lit "lesson")

def validateProjectPolicy (p : ProjectPolicy) : Except Exn Unit := do
  validateRequiredString p.policyId (lit "policy_id") (lit "project policy records require")
    (some memoryIdMaxChars)
  validateMemoryText p.policyText (lit "policy_text") (lit "project policy")
  validateOptionalRfc3339 p.createdAt (lit "created_at") (lit "project policy")

def scopeFields : List Str :=
  [lit "repo", lit "tenant", lit "branch", lit "prompt_version", lit "prompt_family", lit "tool",
    lit "tool_schema_version", lit "model", lit "model_family", lit "eval_suite", lit "task_type",
    lit "failure_type"]

def validateScopeField (py : Python) (f : Str × Str) : Except Exn Unit := do
  raiseIf (f.1 ∉ scopeFields)
    (.valueError (lit "lesson scope field is not supported: " ++ f.1))
  raiseIf (blank f.2 = true)
    (.valueError (lit "lesson scope field " ++ py.repr f.1 ++ lit " must be a non-empty string"))
  raiseIf (metadataValueMaxChars < f.2.length)
    (.valueError (lit "lesson scope field " ++ py.repr f.1 ++ lit " must be at most " ++
      decimal metadataValueMaxChars ++ lit " characters"))

def validateLessonContract (py : Python) (lessonText : Str) (scope : Scope) (confidence : Number) :
    Except Exn Unit := do
  raiseIf (scope.isEmpty = true) (valueError "lessons require non-empty scope")
  checkEach (validateScopeField py) scope.entries
  raiseIf (blank lessonText = true) (valueError "lessons require lesson_text")
  raiseIf (memoryTextMaxChars < lessonText.length)
    (.valueError (lit "lesson_text must be at most " ++ decimal memoryTextMaxChars ++
      lit " characters"))
  raiseIf (confidence.isFinite = false)
    (valueError "lesson confidence must be a number between 0 and 1")
  raiseIf (confidence.lt .zero = true ∨ Number.one.lt confidence = true)
    (valueError "lesson confidence must be between 0 and 1")

end Records

section UsageLogs

def validateMemoryIdList (value : List Str) (fieldName : Str) : Except Exn Unit := do
  raiseIf ([] ∈ value)
    (.valueError (lit "usage log " ++ fieldName ++ lit " must be a list of non-empty strings"))
  raiseIf (¬value.Nodup)
    (.valueError (lit "usage log " ++ fieldName ++ lit " must not contain duplicate memory IDs"))
  raiseIf (∃ item ∈ value, memoryIdMaxChars < item.length)
    (.valueError (lit "usage log " ++ fieldName ++ lit " entries must be at most " ++
      decimal memoryIdMaxChars ++ lit " characters"))

def validateStringMapping (value : Dict Str Str) (fieldName : Str) : Except Exn Unit := do
  raiseIf (∃ f ∈ value.entries, blank f.1 = true ∨ blank f.2 = true)
    (.valueError (lit "usage log " ++ fieldName ++
      lit " must map non-empty strings to non-empty strings"))
  raiseIf (fieldName = lit "context" ∧ ∃ f ∈ value.entries, metadataValueMaxChars < f.2.length)
    (.valueError (lit "usage log context values must be at most " ++
      decimal metadataValueMaxChars ++ lit " characters"))
  raiseIf (fieldName = lit "system_blocked_reasons" ∧
      ∃ f ∈ value.entries, memoryIdMaxChars < f.1.length)
    (.valueError (lit "usage log system_blocked_reasons keys must be at most " ++
      decimal memoryIdMaxChars ++ lit " characters"))

def listed (label : Str) (ids : List Str) : Str :=
  if ids.isEmpty then [] else label ++ commaSeparated ids

def validateStatusMapping (value : Dict Str Status) (candidateMemoryIds : List Str) :
    Except Exn Unit := do
  raiseIf (∃ k ∈ value.keys, blank k = true)
    (valueError "usage log candidate_memory_statuses contains an invalid status")
  raiseIf (∃ k ∈ value.keys, memoryIdMaxChars < k.length)
    (.valueError (lit "usage log candidate_memory_statuses keys must be at most " ++
      decimal memoryIdMaxChars ++ lit " characters"))
  let missingStatuses := candidateMemoryIds.filter (fun i => decide (i ∉ value.keys))
  let extraStatuses := value.keys.filter (fun k => decide (k ∉ candidateMemoryIds))
  raiseIf (missingStatuses ≠ [] ∨ extraStatuses ≠ [])
    (.valueError (lit "usage log candidate_memory_statuses must match candidates" ++
      listed (lit "; missing: ") (sortedStrs missingStatuses.dedup) ++
      listed (lit "; extra: ") (sortedStrs extraStatuses)))

def memorySourceIdentityContextFields : List Str :=
  [lit "source_eval_suite", lit "source_input_hash"]

def refuseListed (message : String) (ids : List Str) : Except Exn Unit :=
  raiseIf (ids ≠ []) (.valueError (lit message ++ commaSeparated ids))

def validateUsageLogTraceId (traceId : Option Str) : Except Exn Unit :=
  match traceId with
  | none => .ok ()
  | some v => do
    raiseIf (blank v = true) (valueError "usage log trace_id must be a non-empty string")
    raiseIf (memoryIdMaxChars < v.length)
      (.valueError (lit "usage log trace_id must be at most " ++ decimal memoryIdMaxChars ++
        lit " characters"))

def validateRequestId (requestId : Option Str) : Except Exn Unit :=
  match requestId with
  | none => .ok ()
  | some v => validateRequiredString v (lit "request_id") (lit "usage log records require")
      (some memoryIdMaxChars)

def validateUsageLog (log : MemoryUsageLog) : Except Exn Unit := do
  checkEach (fun f => validateRequiredString f.2 f.1 (lit "usage log records require")
    (some memoryIdMaxChars)) [(lit "decision_id", log.decisionId), (lit "run_id", log.runId)]
  validateRequestId log.requestId
  validateMemoryIdList log.candidateMemoryIds (lit "candidate_memory_ids")
  validateMemoryIdList log.usedMemoryIds (lit "used_memory_ids")
  validateMemoryIdList log.blockedMemoryIds (lit "blocked_memory_ids")
  raiseIf (blank log.reason = true) (valueError "usage log reason must be nonblank")
  raiseIf (memoryDecisionReasonMaxChars < log.reason.length)
    (.valueError (lit "usage log reason must be at most " ++
      decimal memoryDecisionReasonMaxChars ++ lit " characters"))
  validateUsageLogTraceId log.traceId
  validateStringMapping log.context (lit "context")
  raiseIf (∃ k ∈ memorySourceIdentityContextFields, k ∈ log.context.keys)
    (valueError "usage log context must not persist memory source identity")
  validateStatusMapping log.candidateMemoryStatuses log.candidateMemoryIds
  validateStringMapping log.systemBlockedReasons (lit "system_blocked_reasons")
  refuseListed "usage log system_blocked_reasons must reference candidates: "
    (sortedStrs (log.systemBlockedReasons.keys.filter
      (fun k => decide (k ∉ log.candidateMemoryIds))))
  raiseIf (log.usedMemoryIds ≠ [] ∧ log.recommendedInjection = .none)
    (valueError "usage log recommended_injection cannot be 'none' when memory was used")
  raiseIf (log.usedMemoryIds = [] ∧ log.recommendedInjection ≠ .none)
    (valueError "usage log recommended_injection must be 'none' when no memory was used")
  raiseIf (log.memoryCausedFailure = true ∧
      (log.usedMemoryIds = [] ∨ ¬(log.evalResult = some .fail ∨ log.evalResult = some .error)))
    (valueError "usage log memory_caused_failure requires failed or errored memory use")
  refuseListed "used memory ids must be present in candidates: "
    (log.usedMemoryIds.filter (fun i => decide (i ∉ log.candidateMemoryIds)))
  refuseListed "blocked memory ids must be present in candidates: "
    (log.blockedMemoryIds.filter (fun i => decide (i ∉ log.candidateMemoryIds)))
  refuseListed "memory ids cannot be both used and blocked: "
    (log.usedMemoryIds.filter (fun i => decide (i ∈ log.blockedMemoryIds)))
  validateOptionalRfc3339 log.createdAt (lit "created_at") (lit "usage log")

end UsageLogs

end TraceBackedMemory
