import TraceBackedMemory.Foundation.Dict
import TraceBackedMemory.Foundation.JsonString

namespace TraceBackedMemory

open Text

inductive Exn where
  | valueError (message : Str)
  | typeError (message : Str)
  | keyError (key : Str)
  | indexError
  | jsonDecodeError
  | interrupt
  deriving DecidableEq

def valueError (message : String) : Exn := .valueError (lit message)

structure Python where
  casefold : Str → Str
  isWordCharacter : CodePoint → Bool
  isIdentifier : Str → Bool
  repr : Str → Str
  floatRepr : Double → Str
  parseFloat : Str → Option Double
  jsonLoads : Str → Except Str Json

def Python.numberText (py : Python) : Number → Str
  | .int n => decimalInt n
  | .float x => py.floatRepr x

inductive Mode where
  | debug
  | repair
  | regression
  | planning
  | eval
  | production
  deriving DecidableEq

def Mode.text : Mode → Str
  | .debug => lit "debug"
  | .repair => lit "repair"
  | .regression => lit "regression"
  | .planning => lit "planning"
  | .eval => lit "eval"
  | .production => lit "production"

inductive Status where
  | draft
  | verified
  | active
  | obsolete
  deriving DecidableEq

def Status.text : Status → Str
  | .draft => lit "draft"
  | .verified => lit "verified"
  | .active => lit "active"
  | .obsolete => lit "obsolete"

inductive MemoryType where
  | procedural
  | semantic
  | episodic
  | policy
  deriving DecidableEq

def MemoryType.text : MemoryType → Str
  | .procedural => lit "procedural"
  | .semantic => lit "semantic"
  | .episodic => lit "episodic"
  | .policy => lit "policy"

inductive MemoryKind where
  | failureCase
  | lesson
  | projectPolicy
  deriving DecidableEq

inductive EvalResult where
  | pass
  | fail
  | error
  | unknown
  deriving DecidableEq

def EvalResult.evaluated (r : EvalResult) : Bool := decide (r ≠ .unknown)

def EvalResult.failing (r : EvalResult) : Bool := decide (r = .fail ∨ r = .error)

inductive FailureCaseStatus where
  | draft
  | verified
  | obsolete
  deriving DecidableEq

def FailureCaseStatus.status : FailureCaseStatus → Status
  | .draft => .draft
  | .verified => .verified
  | .obsolete => .obsolete

inductive LessonStatus where
  | active
  | obsolete
  deriving DecidableEq

def LessonStatus.status : LessonStatus → Status
  | .active => .active
  | .obsolete => .obsolete

inductive Risk where
  | none
  | low
  | medium
  | high
  deriving DecidableEq

inductive Injection where
  | none
  | shortSummary
  | fullCaseSummary
  | pointerOnly
  deriving DecidableEq

structure MemoryContext where
  mode : Mode
  repo : Str
  commitSha : Str
  branch : Option Str := none
  promptVersion : Option Str := none
  promptFamily : Option Str := none
  tool : Option Str := none
  toolSchemaVersion : Option Str := none
  model : Option Str := none
  modelFamily : Option Str := none
  evalSuite : Option Str := none
  taskType : Option Str := none
  failureType : Option Str := none
  tenant : Option Str := none
  inputHash : Option Str := none
  deriving DecidableEq

abbrev JsonObject := List (Str × Json)

structure Trace where
  traceId : Str
  runId : Str
  commitSha : Str
  repo : Option Str := none
  tenant : Option Str := none
  branch : Option Str := none
  dirty : Bool := false
  promptVersion : Option Str := none
  promptFamily : Option Str := none
  toolSchemaVersion : Option Str := none
  model : Option Str := none
  evalSuite : Option Str := none
  inputHash : Option Str := none
  outputHash : Option Str := none
  retrievedContext : List JsonObject := []
  toolCalls : List JsonObject := []
  toolOutputs : List JsonObject := []
  evalResult : EvalResult := .unknown
  latencyMs : Option Int := none
  costUsd : Option Number := none
  error : Option Str := none
  traceUri : Option Str := none
  createdAt : Option Str := none

structure FailureCase where
  caseId : Str
  sourceTraceId : Str
  commitSha : Str
  failureType : Str
  symptom : Str
  rootCause : Option Str := none
  fix : Option Str := none
  fixCommitSha : Option Str := none
  regressionPassed : Bool := false
  reviewedBy : Option Str := none
  reviewNotes : Option Str := none
  reviewedAt : Option Str := none
  status : FailureCaseStatus := .draft
  createdAt : Option Str := none
  deriving DecidableEq

abbrev Scope := Dict Str Str

structure Lesson where
  lessonId : Str
  sourceCaseId : Str
  lessonText : Str
  memoryType : MemoryType
  scope : Scope
  confidence : Number := Number.one
  sensitive : Bool := false
  evalLeaking : Bool := false
  status : LessonStatus := .active
  createdAt : Option Str := none
  deriving DecidableEq

structure ProjectPolicy where
  policyId : Str
  policyText : Str
  scope : Scope
  confidence : Number := Number.one
  sensitive : Bool := false
  evalLeaking : Bool := false
  status : LessonStatus := .active
  createdAt : Option Str := none
  deriving DecidableEq

structure MemoryObsolescenceRequest where
  memoryKind : MemoryKind
  memoryId : Str
  deriving DecidableEq

structure MemoryItem where
  memoryId : Str
  status : Status
  memoryType : MemoryType
  scope : Scope := Dict.empty
  text : Str := []
  sourceTraceId : Option Str := none
  sourceCaseId : Option Str := none
  confidence : Number := Number.one
  sensitive : Bool := false
  evalLeaking : Bool := false
  sourcePolicyId : Option Str := none
  sourceEvalSuite : Option Str := none
  sourceInputHash : Option Str := none
  fullText : Option Str := none
  deriving DecidableEq

structure MemoryDecision where
  useMemory : Bool
  allowedMemoryIds : List Str
  blockedMemoryIds : List Str
  reason : Str
  risk : Risk
  recommendedInjection : Injection
  deriving DecidableEq

structure MemoryGateRequest where
  requestId : Str
  context : MemoryContext
  candidateMemoryIds : List Str
  systemAllowedMemoryIds : List Str
  systemBlocked : List (Str × Str)
  prompt : Str
  storeToken : Nat
  traceId : Option Str := none
  runId : Option Str := none
  deriving DecidableEq

def MemoryGateRequest.same (a b : MemoryGateRequest) : Bool :=
  decide ({ a with storeToken := 0 } = { b with storeToken := 0 })

structure GatedMemoryResult where
  requestId : Str
  traceId : Str
  decisionId : Str
  useMemory : Bool
  allowedMemoryIds : List Str
  blockedMemoryIds : List Str
  reason : Str
  risk : Risk
  recommendedInjection : Injection
  snippet : Str
  deriving DecidableEq

structure MemoryUsageLog where
  decisionId : Str
  runId : Str
  mode : Mode
  candidateMemoryIds : List Str
  usedMemoryIds : List Str
  blockedMemoryIds : List Str
  reason : Str
  risk : Risk
  recommendedInjection : Injection
  evalResult : Option EvalResult := none
  memoryCausedFailure : Bool := false
  traceId : Option Str := none
  context : Dict Str Str := Dict.empty
  candidateMemoryStatuses : Dict Str Status := Dict.empty
  systemBlockedReasons : Dict Str Str := Dict.empty
  createdAt : Option Str := none
  requestId : Option Str := none
  deriving DecidableEq

structure MemoryRunResult where
  decisionId : Str
  evalResult : EvalResult
  memoryCausedFailure : Bool := false
  outputHash : Option Str := none
  toolOutputs : Option (List JsonObject) := none
  latencyMs : Option Int := none
  costUsd : Option Number := none
  error : Option Str := none
  traceUri : Option Str := none

structure MemoryRunCompletion where
  trace : Trace
  usageLog : MemoryUsageLog

structure CommitAncestryEvidence where
  currentCommitSha : Str
  commitRelations : List (Str × Bool)
  deriving DecidableEq

end TraceBackedMemory
