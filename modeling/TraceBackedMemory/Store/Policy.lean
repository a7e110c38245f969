import TraceBackedMemory.Store.Checks

namespace TraceBackedMemory

open Text Raising

def injectionTextMaxChars : Nat := 500

def fullCaseInjectionTextMaxChars : Nat := 2000

def llmGateMaxCandidates : Nat := 50

def llmGatePromptMaxChars : Nat := 32000

def llmGateResponseMaxBytes : Nat := 64 * 1024

def llmGateResponseMaxNodes : Nat := 1000

def llmGateResponseMaxDepth : Nat := 20

def injectionMaxMemories : Nat := 20

def injectionSnippetMaxChars : Nat := 12000

section Contract

def MemoryContext.requiredFields (c : MemoryContext) : List (Str × Str) :=
  [(lit "mode", c.mode.text), (lit "repo", c.repo), (lit "commit_sha", c.commitSha)]

def MemoryContext.optionalFields (c : MemoryContext) : List (Str × Option Str) :=
  [(lit "tenant", c.tenant), (lit "branch", c.branch), (lit "prompt_version", c.promptVersion),
    (lit "prompt_family", c.promptFamily), (lit "tool", c.tool),
    (lit "tool_schema_version", c.toolSchemaVersion), (lit "model", c.model),
    (lit "model_family", c.modelFamily), (lit "eval_suite", c.evalSuite),
    (lit "task_type", c.taskType), (lit "failure_type", c.failureType),
    (lit "input_hash", c.inputHash)]

def contextFieldError (f : Str × Str) : Option Str :=
  if blank f.2 then some (lit "context " ++ f.1 ++ lit " must be a non-empty string")
  else if metadataValueMaxChars < f.2.length then
    some (lit "context " ++ atMost f.1 (some metadataValueMaxChars))
  else none

def contextContractError (c : MemoryContext) : Option Str :=
  (c.requiredFields.findSome? contextFieldError) <|>
    (c.optionalFields.findSome? (fun f => f.2.bind (fun v => contextFieldError (f.1, v)))) <|>
    (if c.inputHash ≠ none ∧ c.evalSuite = none then some (lit "context input_hash requires eval_suite")
      else none)

def validateMemoryContext (c : MemoryContext) : Except Exn Unit :=
  match contextContractError c with
  | some e => .error (.valueError e)
  | none => .ok ()

def contextValues (c : MemoryContext) : List (Str × Option Str) :=
  [(lit "repo", some c.repo), (lit "tenant", c.tenant), (lit "branch", c.branch),
    (lit "prompt_version", c.promptVersion), (lit "prompt_family", c.promptFamily),
    (lit "tool", c.tool), (lit "tool_schema_version", c.toolSchemaVersion), (lit "model", c.model),
    (lit "model_family", c.modelFamily), (lit "eval_suite", c.evalSuite),
    (lit "task_type", c.taskType), (lit "failure_type", c.failureType)]

def contextValue (c : MemoryContext) (key : Str) : Option Str :=
  (Dict.lookupIn key (contextValues c)).join

def hasMetadataMatch (scope : Scope) (c : MemoryContext) : Bool :=
  scope.entries.all (fun f => contextValue c f.1 == some f.2)

def scopeMatches (c : MemoryContext) (m : MemoryItem) : Bool :=
  !m.scope.isEmpty && m.scope.entries.all (fun f => contextValue c f.1 == some f.2)

def scopeFieldError (py : Python) (f : Str × Str) : Option Str :=
  if f.1 ∉ scopeFields then
    some (lit "scope field " ++ py.repr f.1 ++ lit " is not allowed")
  else if blank f.2 then
    some (lit "scope field " ++ py.repr f.1 ++ lit " must be a non-empty string")
  else if metadataValueMaxChars < f.2.length then
    some (lit "scope field " ++ py.repr f.1 ++ lit " must be at most " ++
      decimal metadataValueMaxChars ++ lit " characters")
  else none

def sourceIdentityError (f : Str × Option Str) : Option Str :=
  match f.2 with
  | none => none
  | some v =>
    if v = [] then some (f.1 ++ lit " must be a non-empty string")
    else if metadataValueMaxChars < v.length then some (atMost f.1 (some metadataValueMaxChars))
    else none

def sourceIdentifierError (source : Option Str) : Option Str :=
  match source with
  | none => none
  | some v =>
    if v = [] then some (lit "source identifiers must be non-empty strings")
    else if memoryIdMaxChars < v.length then
      some (lit "source identifiers must be at most " ++ decimal memoryIdMaxChars ++
        lit " characters")
    else none

def memoryItemContractError (py : Python) (m : MemoryItem) : Option Str :=
  if blank m.memoryId then some (lit "memory_id must be a non-empty string")
  else if memoryIdMaxChars < m.memoryId.length then
    some (atMost (lit "memory_id") (some memoryIdMaxChars))
  else if m.fullText.elim false blank then
    some (lit "full_text must be a non-empty string or None")
  else
    (m.scope.entries.findSome? (scopeFieldError py)) <|>
    ([(lit "source_eval_suite", m.sourceEvalSuite),
      (lit "source_input_hash", m.sourceInputHash)].findSome? sourceIdentityError) <|>
    (if m.sourceEvalSuite.isNone ≠ m.sourceInputHash.isNone then
      some (lit "source_eval_suite and source_input_hash must be provided together") else none) <|>
    ([m.sourceCaseId, m.sourceTraceId, m.sourcePolicyId].findSome? sourceIdentifierError) <|>
    (if m.confidence.isFinite = false ∨
        ¬(Number.zero.lt m.confidence = true ∧ m.confidence.le .one = true) then
      some (lit "confidence must be greater than 0.0 and at most 1.0") else none)

end Contract

section SystemGate

def isCurrentBenchmarkExample (c : MemoryContext) (m : MemoryItem) : Bool :=
  c.evalSuite.isSome && c.inputHash.isSome && m.sourceEvalSuite.isSome &&
    m.sourceInputHash.isSome && c.evalSuite == m.sourceEvalSuite && c.inputHash == m.sourceInputHash

def quoted (s : Str) : Str := lit "'" ++ s ++ lit "'"

def nonEmpty (o : Option Str) : Bool := o.getD [] ≠ []

def allowedStatus (s : Status) : Bool := decide (s = .active ∨ s = .verified)

def missingSource (m : MemoryItem) : Bool :=
  !(nonEmpty m.sourceCaseId || nonEmpty m.sourceTraceId || nonEmpty m.sourcePolicyId)

def statusError (m : MemoryItem) : Option Str :=
  if !allowedStatus m.status then
    some (lit "status " ++ quoted m.status.text ++ lit " is not allowed")
  else if missingSource m then
    some (lit "missing source_case_id, source_trace_id, or source_policy_id")
  else none

def blockedReason (py : Python) (c : MemoryContext) (m : MemoryItem) : Option Str :=
  contextContractError c <|> memoryItemContractError py m <|> statusError m <|>
    (if m.sensitive then some (lit "memory is marked sensitive")
    else if m.evalLeaking then some (lit "memory may leak eval data")
    else if isCurrentBenchmarkExample c m then
      some (lit "memory originates from current benchmark example")
    else if !scopeMatches c m then some (lit "scope does not match current context")
    else if c.mode = .eval ∧ m.memoryType ≠ .policy then
      some (lit "eval mode only allows policy memory")
    else if c.mode = .production ∧ ¬(m.memoryType = .procedural ∨ m.memoryType = .policy) then
      some (lit "production mode only allows procedural or policy memory")
    else none)

def validateCollectionItem (py : Python) (fieldName : Str) (requireValidContract : Bool)
    (m : MemoryItem) : Except Exn Unit := do
  raiseIf (m.memoryId = []) (valueError "memory_id must be a non-empty string")
  raiseIf (memoryIdMaxChars < m.memoryId.length)
    (.valueError (atMost (lit "memory_id") (some memoryIdMaxChars)))
  match requireValidContract, memoryItemContractError py m with
  | true, some e =>
    .error (.valueError (fieldName ++ lit " memory " ++ py.repr m.memoryId ++ lit " is invalid: " ++ e))
  | _, _ => return ()

def validatedMemoryCollection (py : Python) (value : List MemoryItem) (fieldName : Str)
    (requireValidContract : Bool) : Except Exn (List MemoryItem) := do
  checkEach (validateCollectionItem py fieldName requireValidContract) value
  raiseIf (¬(value.map MemoryItem.memoryId).Nodup)
    (.valueError (fieldName ++ lit " must not contain duplicate memory IDs"))
  return value

abbrev GateOutcome := List MemoryItem × Dict Str Str

def gateStep (py : Python) (c : MemoryContext) (g : GateOutcome) (m : MemoryItem) : GateOutcome :=
  match blockedReason py c m with
  | none => (g.1 ++ [m], g.2)
  | some reason => (g.1, g.2.set m.memoryId reason)

def systemGate (py : Python) (c : MemoryContext) (candidates : List MemoryItem) :
    Except Exn GateOutcome := do
  validateMemoryContext c
  let validated ← validatedMemoryCollection py candidates (lit "candidates") false
  return validated.foldl (gateStep py c) ([], Dict.empty)

def llmGateCandidateLimitReason : Str := lit "LLM gate candidate limit exceeded"

def boundedSystemGate (py : Python) (c : MemoryContext) (candidates : List MemoryItem) :
    Except Exn GateOutcome := do
  let g ← systemGate py c candidates
  if g.1.length ≤ llmGateMaxCandidates then return g
  else
    return (g.1.take llmGateMaxCandidates,
      g.2.update ((g.1.drop llmGateMaxCandidates).map
        (fun m => (m.memoryId, llmGateCandidateLimitReason))))

end SystemGate

section Texts

def capInjectedText (text : Str) (maxChars : Nat) : Str :=
  if text.length ≤ maxChars then text else rstrip (text.take (maxChars - 3)) ++ lit "..."

def scopeText (scope : Scope) : Str :=
  lit "\x7b" ++ joinWith (lit ", ")
    ((scope.entries.insertionSort (fun a b => a.1 ≤ b.1)).map
      (fun f => dumpsString f.1 ++ lit ": " ++ dumpsString f.2)) ++ lit "\x7d"

def sourceText (m : MemoryItem) : Str :=
  if nonEmpty m.sourceCaseId then m.sourceCaseId.getD []
  else if nonEmpty m.sourceTraceId then m.sourceTraceId.getD []
  else if nonEmpty m.sourcePolicyId then m.sourcePolicyId.getD []
  else lit "unknown"

def promptContextFields (c : MemoryContext) : List (Str × Option Str) :=
  [(lit "mode", some c.mode.text), (lit "repo", some c.repo), (lit "tenant", c.tenant),
    (lit "branch", c.branch), (lit "commit_sha", some c.commitSha),
    (lit "prompt_version", c.promptVersion), (lit "prompt_family", c.promptFamily),
    (lit "tool", c.tool), (lit "tool_schema_version", c.toolSchemaVersion), (lit "model", c.model),
    (lit "model_family", c.modelFamily), (lit "eval_suite", c.evalSuite),
    (lit "task_type", c.taskType), (lit "failure_type", c.failureType)]

def contextLines (c : MemoryContext) : List Str :=
  (promptContextFields c).filterMap
    (fun f => f.2.map (fun v => lit "- " ++ f.1 ++ lit ": " ++ dumpsString v))

def memoryLines (py : Python) (m : MemoryItem) : List Str :=
  [lit "- id: " ++ dumpsString m.memoryId,
    lit "  type: " ++ dumpsString m.memoryType.text,
    lit "  status: " ++ dumpsString m.status.text,
    lit "  scope: " ++ scopeText m.scope,
    lit "  source: " ++ dumpsString (sourceText m),
    lit "  confidence: " ++ py.numberText m.confidence,
    lit "  text: " ++ dumpsString (capInjectedText m.text injectionTextMaxChars)]

def orNone (ls : List Str) : List Str := if ls.isEmpty then [lit "- none"] else ls

def promptRules : List Str :=
  [lit "Rules:",
    lit "1. Use memory only if it is directly relevant to the current task.",
    lit "2. Do not use memory if it is obsolete, draft, low-confidence, or missing source.",
    lit ("3. Do not use memory if its scope does not match the current repo, tenant, tool, " ++
      "prompt family, model family, or eval suite."),
    lit ("4. Do not use memory if it may leak benchmark answers, evaluator reasoning, " ++
      "private user data, secrets, or sensitive tool output."),
    lit "5. In eval mode, use only project policy, prompt contract, and tool schema policy.",
    lit "6. In production mode, use only active, verified, scope-matched, short procedural memory.",
    [],
    lit ("Return only JSON with use_memory, allowed_memory_ids, blocked_memory_ids, reason, " ++
      "risk, and recommended_injection.")]

def promptText (py : Python) (c : MemoryContext) (candidates : List MemoryItem)
    (task contextSummary : Str) : Str :=
  joinNewline
    ([lit ("You are deciding whether retrieved memory should be used for the current " ++
        "LLM/agent task."), [], lit "Current task:",
      dumpsString (capInjectedText task injectionTextMaxChars), [], lit "Current context:"] ++
      orNone (contextLines c) ++ [[], lit "Context summary:",
      if contextSummary = [] then lit "none"
      else dumpsString (capInjectedText contextSummary injectionTextMaxChars), [],
      lit "Candidate memory:"] ++
      orNone ((candidates.insertionSort (fun a b => a.memoryId ≤ b.memoryId)).flatMap
        (memoryLines py)) ++ [[]] ++ promptRules)

def buildLlmGatePrompt (py : Python) (c : MemoryContext) (candidates : List MemoryItem)
    (task contextSummary : Str) : Except Exn Str := do
  validateMemoryContext c
  let validated ← validatedMemoryCollection py candidates (lit "candidates") false
  raiseIf (task = []) (valueError "task must be a non-empty string")
  raiseIf (llmGateMaxCandidates < validated.length)
    (.valueError (lit "LLM gate accepts at most " ++ decimal llmGateMaxCandidates ++
      lit " candidates"))
  let g ← systemGate py c validated
  raiseIf (g.2.entries ≠ [])
    (.valueError (lit "LLM gate candidates must pass System Gate: " ++
      joinWith (lit ", ") (g.2.entries.map (fun f => f.1 ++ lit ": " ++ f.2))))
  let prompt := promptText py c validated task contextSummary
  raiseIf (llmGatePromptMaxChars < prompt.length)
    (.valueError (lit "LLM gate prompt exceeds " ++ decimal llmGatePromptMaxChars ++
      lit " characters"))
  return prompt

end Texts

section Decisions

inductive DecisionPayload where
  | text (source : Str)
  | mapping (fields : List (Str × Json))

def exceeds (limit : Option Nat) (n : Nat) : Bool :=
  match limit with
  | none => false
  | some m => decide (m < n)

def tooManyMemoryIds (fieldName : Str) (maxItems : Option Nat) : Exn :=
  .valueError (fieldName ++ lit " accepts at most " ++ decimal (maxItems.getD 0) ++
    lit " memory IDs")

def notMemoryIds (fieldName : Str) : Exn :=
  .valueError (fieldName ++ lit " must be a list of non-empty strings")

def stringList (value : List Str) (fieldName : Str) (maxItems : Option Nat) :
    Except Exn (List Str) := do
  raiseIf (exceeds maxItems value.length = true) (tooManyMemoryIds fieldName maxItems)
  raiseIf ([] ∈ value) (notMemoryIds fieldName)
  raiseIf (∃ item ∈ value, memoryIdMaxChars < item.length)
    (.valueError (fieldName ++ lit " entries must be at most " ++ decimal memoryIdMaxChars ++
      lit " characters"))
  raiseIf (¬value.Nodup)
    (.valueError (fieldName ++ lit " must not contain duplicate memory IDs"))
  return value

def jsonStrings? : List Json → Option (List Str)
  | [] => some []
  | .str s :: l => (jsonStrings? l).map (s :: ·)
  | _ :: _ => none

def jsonStringList (value : Json) (fieldName : Str) (maxItems : Option Nat) :
    Except Exn (List Str) :=
  match value with
  | .arr items => do
    raiseIf (exceeds maxItems items.length = true) (tooManyMemoryIds fieldName maxItems)
    let value ← demand (jsonStrings? items) (notMemoryIds fieldName)
    stringList value fieldName maxItems
  | _ => .error (notMemoryIds fieldName)

def riskOfText (s : Str) : Option Risk :=
  if s = lit "none" then some .none
  else if s = lit "low" then some .low
  else if s = lit "medium" then some .medium
  else if s = lit "high" then some .high
  else none

def riskText : Risk → Str
  | .none => lit "none"
  | .low => lit "low"
  | .medium => lit "medium"
  | .high => lit "high"

def injectionOfText (s : Str) : Option Injection :=
  if s = lit "none" then some .none
  else if s = lit "short_summary" then some .shortSummary
  else if s = lit "full_case_summary" then some .fullCaseSummary
  else if s = lit "pointer_only" then some .pointerOnly
  else none

def injectionText : Injection → Str
  | .none => lit "none"
  | .shortSummary => lit "short_summary"
  | .fullCaseSummary => lit "full_case_summary"
  | .pointerOnly => lit "pointer_only"

def unknownRisk : Exn := valueError "risk must be one of: high, low, medium, none"

def unknownInjection : Exn :=
  valueError ("recommended_injection must be one of: full_case_summary, none, pointer_only, " ++
    "short_summary")

def validateReason (reason : Str) : Except Exn Unit := do
  raiseIf (blank reason = true) (valueError "reason must be nonblank")
  raiseIf (memoryDecisionReasonMaxChars < reason.length)
    (.valueError (lit "reason must be at most " ++ decimal memoryDecisionReasonMaxChars ++
      lit " characters"))

def validatedDecisionFields (d : MemoryDecision) (maxMemoryIds : Option Nat) :
    Except Exn (List Str × List Str) := do
  let allowed ← stringList d.allowedMemoryIds (lit "allowed_memory_ids") maxMemoryIds
  let blocked ← stringList d.blockedMemoryIds (lit "blocked_memory_ids") maxMemoryIds
  validateReason d.reason
  return (allowed, blocked)

def memoryDecisionConsistencyError (useMemory : Bool) (allowedMemoryIds : List Str)
    (recommendedInjection : Injection) : Option Str :=
  if useMemory then
    if allowedMemoryIds = [] then
      some (lit "use_memory requires at least one allowed_memory_ids entry")
    else if recommendedInjection = .none then
      some (lit "recommended_injection cannot be 'none' when use_memory is true")
    else none
  else if allowedMemoryIds ≠ [] then
    some (lit "use_memory false requires empty allowed_memory_ids")
  else if recommendedInjection ≠ .none then
    some (lit "recommended_injection must be 'none' when use_memory is false")
  else none

def refuseError (e : Option Str) : Except Exn Unit :=
  match e with
  | none => .ok ()
  | some m => .error (.valueError m)

structure PayloadBudget where
  nodeCount : Nat := 0
  textBytes : Nat := 0

def tooManyPayloadNodes : Exn :=
  .valueError (lit "memory decision response contains more than " ++
    decimal llmGateResponseMaxNodes ++ lit " nodes")

def notEncodable : Exn := valueError "memory decision response must be UTF-8 encodable"

def tooManyPayloadBytes : Exn :=
  .valueError (lit "memory decision response exceeds " ++ decimal llmGateResponseMaxBytes ++
    lit " UTF-8 bytes")

def PayloadBudget.consumeText (b : PayloadBudget) (text : Str) : Except Exn PayloadBudget := do
  let encoded ← demand (encodedBytes text) notEncodable
  raiseIf (llmGateResponseMaxBytes < b.textBytes + encoded) tooManyPayloadBytes
  return { b with textBytes := b.textBytes + encoded }

def PayloadBudget.consumeNode (b : PayloadBudget) : Except Exn PayloadBudget := do
  raiseIf (llmGateResponseMaxNodes < b.nodeCount + 1) tooManyPayloadNodes
  return { b with nodeCount := b.nodeCount + 1 }

def PayloadBudget.enter (b : PayloadBudget) (depth children : Nat) : Except Exn Unit := do
  raiseIf (0 < children ∧ llmGateResponseMaxDepth ≤ depth)
    (.valueError (lit "memory decision response exceeds maximum nesting depth " ++
      decimal llmGateResponseMaxDepth))
  raiseIf (llmGateResponseMaxNodes - b.nodeCount < children) tooManyPayloadNodes

mutual

def validatePayloadBudget (depth : Nat) (b : PayloadBudget) : Json → Except Exn PayloadBudget
  | .null => b.consumeNode
  | .bool _ => b.consumeNode
  | .num (.int _) => b.consumeNode
  | .num (.float x) => do
    let b ← b.consumeNode
    raiseIf (x.isFinite = false)
      (valueError "memory decision response must contain finite JSON numbers")
    return b
  | .str s => do
    let b ← b.consumeNode
    b.consumeText s
  | .arr items => do
    let b ← b.consumeNode
    b.enter depth items.length
    validatePayloadItems depth b items
  | .obj fields => do
    let b ← b.consumeNode
    b.enter depth fields.length
    let b ← accumulate PayloadBudget.consumeText b (fields.reverse.map Prod.fst)
    validatePayloadFields depth b fields

def validatePayloadItems (depth : Nat) (b : PayloadBudget) :
    List Json → Except Exn PayloadBudget
  | [] => .ok b
  | v :: items => do
    let b ← validatePayloadBudget (depth + 1) b v
    validatePayloadItems depth b items

def validatePayloadFields (depth : Nat) (b : PayloadBudget) :
    List (Str × Json) → Except Exn PayloadBudget
  | [] => .ok b
  | (_, v) :: fields => do
    let b ← validatePayloadBudget (depth + 1) b v
    validatePayloadFields depth b fields

end

def uniqueKeys (description : Str) (seen : List Str) : List (Str × Json) → Except Exn Unit
  | [] => .ok ()
  | (key, _) :: fields => do
    raiseIf (key ∈ seen)
      (.valueError (description ++ lit " JSON contains duplicate object key: " ++ key))
    uniqueKeys description (key :: seen) fields

mutual

def uniqueJsonObjectPairs (description : Str) : Json → Except Exn Unit
  | .arr items => uniqueJsonItems description items
  | .obj fields => do
    uniqueJsonFields description fields
    uniqueKeys description [] fields
  | _ => .ok ()

def uniqueJsonItems (description : Str) : List Json → Except Exn Unit
  | [] => .ok ()
  | v :: items => do
    uniqueJsonObjectPairs description v
    uniqueJsonItems description items

def uniqueJsonFields (description : Str) : List (Str × Json) → Except Exn Unit
  | [] => .ok ()
  | (_, v) :: fields => do
    uniqueJsonObjectPairs description v
    uniqueJsonFields description fields

end

def jsonObject (py : Python) (payload : DecisionPayload) (label : Str) :
    Except Exn (List (Str × Json)) :=
  match payload with
  | .mapping fields => .ok fields
  | .text source => do
    match py.jsonLoads source with
    | .error e => .error (.valueError (lit "invalid " ++ label ++ lit " JSON: " ++ e))
    | .ok v =>
      uniqueJsonObjectPairs label v
      match v with
      | .obj fields => return fields
      | _ => .error (.valueError (label ++ lit " payload must be a JSON object"))

def boundedMemoryDecisionObject (py : Python) (payload : DecisionPayload) :
    Except Exn (List (Str × Json)) := do
  match payload with
  | .text source =>
    let size ← demand (encodedBytes source) notEncodable
    raiseIf (llmGateResponseMaxBytes < size) tooManyPayloadBytes
  | .mapping fields => raiseIf (llmGateResponseMaxNodes < fields.length + 1) tooManyPayloadNodes
  let data ← jsonObject py payload (lit "memory decision")
  let _ ← validatePayloadBudget 0 {} (.obj data)
  return data

def decisionRequiredFields : List Str :=
  [lit "use_memory", lit "allowed_memory_ids", lit "blocked_memory_ids", lit "reason", lit "risk",
    lit "recommended_injection"]

def parseMemoryDecision (py : Python) (payload : DecisionPayload) : Except Exn MemoryDecision := do
  let data ← boundedMemoryDecisionObject py payload
  refuseListed "memory decision missing required fields: "
    (sortedStrs (decisionRequiredFields.filter (fun k => decide (k ∉ data.map Prod.fst))))
  refuseListed "memory decision has unknown fields: "
    (sortedStrs ((data.map Prod.fst).filter (fun k => decide (k ∉ decisionRequiredFields))))
  let use ← demand (match Json.field? (lit "use_memory") data with
    | some (.bool b) => some b
    | _ => none) (valueError "use_memory must be a boolean")
  let allowed ← jsonStringList ((Json.field? (lit "allowed_memory_ids") data).getD .null)
    (lit "allowed_memory_ids") (some llmGateMaxCandidates)
  let blocked ← jsonStringList ((Json.field? (lit "blocked_memory_ids") data).getD .null)
    (lit "blocked_memory_ids") (some llmGateMaxCandidates)
  let reason ← demand (match Json.field? (lit "reason") data with
    | some (.str s) => some s
    | _ => none) (valueError "reason must be a string")
  validateReason reason
  let risk ← demand (match Json.field? (lit "risk") data with
    | some (.str s) => riskOfText s
    | _ => none) unknownRisk
  let injection ← demand (match Json.field? (lit "recommended_injection") data with
    | some (.str s) => injectionOfText s
    | _ => none) unknownInjection
  refuseError (memoryDecisionConsistencyError use allowed injection)
  return ⟨use, allowed, blocked, reason, risk, injection⟩

def MemoryDecision.asDict (d : MemoryDecision) : List (Str × Json) :=
  [(lit "use_memory", .bool d.useMemory),
    (lit "allowed_memory_ids", .arr (d.allowedMemoryIds.map .str)),
    (lit "blocked_memory_ids", .arr (d.blockedMemoryIds.map .str)),
    (lit "reason", .str d.reason),
    (lit "risk", .str (riskText d.risk)),
    (lit "recommended_injection", .str (injectionText d.recommendedInjection))]

def validateBlockedReasons (blocked : Dict Str Str) (fieldName : Str) : Except Exn Unit :=
  raiseIf (∃ f ∈ blocked.entries, f.1 = [] ∨ memoryIdMaxChars < f.1.length ∨ f.2 = [])
    (.valueError (fieldName ++ lit " must map non-empty string IDs to non-empty strings"))

def addMissing (acc : List Str) (ids : List Str) : List Str :=
  ids.foldl (fun acc i => if i ∈ acc then acc else acc ++ [i]) acc

def applyLlmGateDecision (py : Python) (systemAllowed : List MemoryItem)
    (systemBlocked : Dict Str Str) (d : MemoryDecision) :
    Except Exn (List MemoryItem × MemoryDecision) := do
  let validatedAllowed ← validatedMemoryCollection py systemAllowed (lit "system_allowed") true
  validateBlockedReasons systemBlocked (lit "system_blocked")
  let (allowedMemoryIds, blockedMemoryIds) ←
    validatedDecisionFields d (some llmGateMaxCandidates)
  let allowedIds := validatedAllowed.map MemoryItem.memoryId
  refuseListed "memory IDs cannot be present in both system_allowed and system_blocked: "
    (sortedStrs (allowedIds.filter (fun i => decide (i ∈ systemBlocked.keys))))
  let memoryRequested := d.useMemory && decide (d.recommendedInjection ≠ .none)
  let requestedAllowedIds := (if memoryRequested then allowedMemoryIds else []).filter
    (fun i => decide (i ∉ blockedMemoryIds))
  let requestedIds := requestedAllowedIds.filter (fun i => decide (i ∈ allowedIds))
  let useMemory := memoryRequested && decide (requestedIds ≠ [])
  let finalAllowedIds := if useMemory then requestedIds else []
  let finalAllowed := finalAllowedIds.filterMap
    (fun i => validatedAllowed.find? (fun m => decide (m.memoryId = i)))
  let blockedIds := addMissing [] (systemBlocked.keys ++ blockedMemoryIds)
  let blockedIds := addMissing blockedIds
    (allowedMemoryIds.filter (fun i => decide (i ∉ allowedIds)))
  let blockedIds := addMissing blockedIds
    (allowedIds.filter (fun i => decide (i ∉ finalAllowedIds)))
  return (finalAllowed,
    { useMemory := useMemory
      allowedMemoryIds := finalAllowedIds
      blockedMemoryIds := blockedIds
      reason := d.reason
      risk := d.risk
      recommendedInjection := if useMemory then d.recommendedInjection else .none })

end Decisions

section Snippets

def snippetGuardrailError (py : Python) (m : MemoryItem) : Option Str :=
  memoryItemContractError py m <|> statusError m <|>
    (if m.sensitive then some (lit "memory is marked sensitive")
    else if m.evalLeaking then some (lit "memory is marked eval_leaking")
    else none)

def cannotBeInjected (py : Python) (m : MemoryItem) (reason : Str) : Exn :=
  .valueError (lit "memory " ++ py.repr m.memoryId ++ lit " cannot be injected: " ++ reason)

def validateInjectionInputs (py : Python) (memories : List MemoryItem) (d : MemoryDecision) :
    Except Exn Unit := do
  checkEach (fun m => match snippetGuardrailError py m with
    | some e => .error (cannotBeInjected py m e)
    | none => .ok ()) memories
  let (allowedMemoryIds, blockedMemoryIds) ← validatedDecisionFields d none
  refuseError (memoryDecisionConsistencyError d.useMemory allowedMemoryIds d.recommendedInjection)
  if d.useMemory = false then
    raiseIf (memories ≠ []) (valueError "memory decision does not allow injection")
  else
    let memoryIds := memories.map MemoryItem.memoryId
    raiseIf (¬memoryIds.Nodup)
      (valueError "injection memories must not contain duplicate memory IDs")
    raiseIf (∃ i ∈ memoryIds, i ∉ allowedMemoryIds)
      (valueError "injection memories must be listed in decision.allowed_memory_ids")
    raiseIf (∃ i ∈ memoryIds, i ∈ blockedMemoryIds)
      (valueError "injection memories must not include decision.blocked_memory_ids")

def snippetLines (injection : Injection) (index : Nat) (m : MemoryItem) : List Str :=
  [newline :: decimal index ++ lit ". [type: " ++ dumpsString m.memoryType.text ++ lit "][id: " ++
      dumpsString m.memoryId ++ lit "][source: " ++ dumpsString (sourceText m) ++ lit "]",
    lit "Scope: " ++ scopeText m.scope] ++
    match injection with
    | .shortSummary => [lit "Rule: " ++ dumpsString (capInjectedText m.text injectionTextMaxChars)]
    | .fullCaseSummary =>
      [lit "Details: " ++ dumpsString (capInjectedText
        (if nonEmpty m.fullText then m.fullText.getD [] else m.text) fullCaseInjectionTextMaxChars)]
    | _ => []

def numberedSnippetLines (injection : Injection) : Nat → List MemoryItem → List Str
  | _, [] => []
  | n, m :: l => snippetLines injection n m ++ numberedSnippetLines injection (n + 1) l

def buildInjectionSnippet (py : Python) (memories : List MemoryItem) (d : MemoryDecision)
    (c : MemoryContext) : Except Exn Str := do
  let validated ← validatedMemoryCollection py memories (lit "memories") true
  raiseIf (injectionMaxMemories < validated.length)
    (.valueError (lit "injection accepts at most " ++ decimal injectionMaxMemories ++
      lit " memories"))
  validateInjectionInputs py validated d
  if validated.any (fun m => m.sourceEvalSuite.isSome) then
    validateMemoryContext c
    checkEach (fun m => raiseIf (isCurrentBenchmarkExample c m = true)
      (cannotBeInjected py m (lit "memory originates from current benchmark example"))) validated
  if d.recommendedInjection = .none ∨ validated = [] then return []
  else
    let snippet := joinNewline (lit "Relevant verified memory:" ::
      numberedSnippetLines d.recommendedInjection 1 validated)
    raiseIf (injectionSnippetMaxChars < snippet.length)
      (.valueError (lit "injection snippet exceeds " ++ decimal injectionSnippetMaxChars ++
        lit " characters"))
    return snippet

end Snippets

end TraceBackedMemory
