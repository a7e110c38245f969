import TraceBackedMemory.Store.Policy

namespace TraceBackedMemory

open Text Raising

section Requirements

def requireNonEmptyString (value fieldName : Str) (maxChars : Option Nat) : Except Exn Unit := do
  raiseIf (blank value = true) (.valueError (fieldName ++ lit " must be a non-empty string"))
  raiseIf (tooLong value maxChars = true) (.valueError (atMost fieldName maxChars))

def requireOptionalNonEmptyString (value : Option Str) (fieldName : Str) (maxChars : Option Nat) :
    Except Exn Unit :=
  match value with
  | none => .ok ()
  | some v => requireNonEmptyString v fieldName maxChars

def requireRfc3339Timestamp (value fieldName : Str) : Except Exn Unit := do
  requireNonEmptyString value fieldName none
  raiseIf (isRfc3339 value = false)
    (.valueError (fieldName ++ lit " must be a timezone-aware RFC 3339 date-time string"))

def requireOptionalRfc3339Timestamp (value : Option Str) (fieldName : Str) : Except Exn Unit :=
  match value with
  | none => .ok ()
  | some v => requireRfc3339Timestamp v fieldName

def requireCompletedReview (c : FailureCase) : Except Exn Unit := do
  raiseIf (∃ v ∈ [c.reviewedBy, c.rootCause, c.reviewedAt], blank (v.getD []) = true)
    (valueError ("verified failure cases require a completed review with " ++
      "reviewed_by, root_cause, and reviewed_at"))
  requireRfc3339Timestamp (c.reviewedAt.getD []) (lit "reviewed_at")
  requireNonEmptyString (c.reviewedBy.getD []) (lit "reviewed_by") (some metadataValueMaxChars)
  requireNonEmptyString (c.rootCause.getD []) (lit "root_cause") none

def requireFailureCaseIdentity (c : FailureCase) : Except Exn Unit := do
  requireNonEmptyString c.caseId (lit "case_id") (some memoryIdMaxChars)
  requireNonEmptyString c.sourceTraceId (lit "source_trace_id") (some memoryIdMaxChars)
  requireNonEmptyString c.commitSha (lit "commit_sha") (some metadataValueMaxChars)

def requireFailureCaseCore (c : FailureCase) : Except Exn Unit := do
  requireFailureCaseIdentity c
  requireNonEmptyString c.failureType (lit "failure_type") (some metadataValueMaxChars)
  requireNonEmptyString c.symptom (lit "symptom") none

def requireVerifiedFailureCase (c : FailureCase) : Except Exn Unit := do
  raiseIf (c.status ≠ .verified) (valueError "active memory requires a verified failure case")
  raiseIf (c.regressionPassed = false)
    (valueError "active memory requires a regression-backed failure case")
  requireFailureCaseCore c
  requireCompletedReview c
  requireNonEmptyString (c.fix.getD []) (lit "fix") none
  requireNonEmptyString (c.fixCommitSha.getD []) (lit "fix_commit_sha") (some metadataValueMaxChars)

end Requirements

section Transitions

structure CaseReview where
  reviewedBy : Str
  rootCause : Str
  failureType : Option Str := none
  symptom : Option Str := none
  reviewNotes : Option Str := none
  reviewedAt : Option Str := none

structure CaseVerification where
  fix : Str
  fixCommitSha : Str
  regressionPassed : Bool

def transitionVerifyFailureCase (c : FailureCase) (v : CaseVerification) :
    Except Exn FailureCase := do
  raiseIf (c.status ≠ .draft) (valueError "only draft failure cases can be verified")
  requireFailureCaseCore c
  requireNonEmptyString v.fix (lit "fix") none
  requireNonEmptyString v.fixCommitSha (lit "fix_commit_sha") (some metadataValueMaxChars)
  raiseIf (v.regressionPassed = false)
    (valueError "verified failure cases require a passing regression")
  requireCompletedReview c
  return { c with
    status := .verified
    fix := some v.fix
    fixCommitSha := some v.fixCommitSha
    regressionPassed := true }

def transitionReviewFailureCase (now : Str) (c : FailureCase) (r : CaseReview) :
    Except Exn FailureCase := do
  raiseIf (c.status ≠ .draft) (valueError "only draft failure cases can be manually reviewed")
  requireFailureCaseIdentity c
  requireNonEmptyString r.reviewedBy (lit "reviewed_by") (some metadataValueMaxChars)
  requireNonEmptyString r.rootCause (lit "root_cause") none
  requireOptionalNonEmptyString r.failureType (lit "failure_type") (some metadataValueMaxChars)
  requireOptionalNonEmptyString r.symptom (lit "symptom") none
  requireOptionalNonEmptyString r.reviewNotes (lit "review_notes") none
  requireNonEmptyString (r.failureType.getD c.failureType) (lit "failure_type")
    (some metadataValueMaxChars)
  requireNonEmptyString (r.symptom.getD c.symptom) (lit "symptom") none
  requireOptionalRfc3339Timestamp r.reviewedAt (lit "reviewed_at")
  return { c with
    failureType := r.failureType.getD c.failureType
    symptom := r.symptom.getD c.symptom
    rootCause := some r.rootCause
    reviewedBy := some r.reviewedBy
    reviewNotes := r.reviewNotes
    reviewedAt := some (r.reviewedAt.getD now) }

def transitionFailureCaseToObsolete (c : FailureCase) : FailureCase := { c with status := .obsolete }

def transitionLessonToObsolete (l : Lesson) : Lesson := { l with status := .obsolete }

def transitionProjectPolicyToObsolete (p : ProjectPolicy) : ProjectPolicy :=
  { p with status := .obsolete }

end Transitions

section Items

def completeTraceSourceIdentity (t : Trace) : Option Str × Option Str :=
  match t.evalSuite, t.inputHash with
  | some e, some i =>
    if e ≠ [] ∧ e.length ≤ metadataValueMaxChars ∧ i ≠ [] ∧ i.length ≤ metadataValueMaxChars then
      (some e, some i)
    else (none, none)
  | _, _ => (none, none)

def toolName? (call : JsonObject) : Option Str :=
  match Json.field? (lit "name") call with
  | some (.str name) => if name = [] then none else some name
  | _ => none

def traceToolNames (t : Trace) : List Str := (t.toolCalls.filterMap toolName?).dedup

def truthy (o : Option Str) : Option Str := o.filter (fun s => decide (s ≠ []))

def failureCaseScope (c : FailureCase) (t : Trace) : Scope :=
  let traced : List (Str × Str) :=
    [(lit "repo", t.repo), (lit "tenant", t.tenant), (lit "branch", t.branch),
      (lit "prompt_version", t.promptVersion), (lit "prompt_family", t.promptFamily),
      (lit "tool_schema_version", t.toolSchemaVersion), (lit "model", t.model),
      (lit "eval_suite", t.evalSuite)].filterMap (fun f => (truthy f.2).map (fun v => (f.1, v)))
  let tool : List (Str × Str) :=
    match traceToolNames t with
    | [name] => [(lit "tool", name)]
    | _ => []
  Dict.ofList (traced ++ tool ++ [(lit "failure_type", c.failureType)])

def labelled (label : String) (o : Option Str) : List Str :=
  match truthy o with
  | some v => [lit label ++ v]
  | none => []

def failureCaseText (c : FailureCase) : Str :=
  joinNewline ([lit "Failure: " ++ c.symptom] ++ labelled "Root cause: " c.rootCause ++
    labelled "Fix: " c.fix)

def failureCaseFullText (c : FailureCase) : Str :=
  joinNewline ([failureCaseText c, lit "Source commit: " ++ c.commitSha] ++
    labelled "Fix commit: " c.fixCommitSha ++
    [lit (if c.regressionPassed then "Regression: passed" else "Regression: not passed")] ++
    labelled "Reviewed by: " c.reviewedBy)

def lessonFullCaseText (l : Lesson) (c : FailureCase) : Str :=
  joinNewline [lit "Lesson: " ++ l.lessonText, failureCaseFullText c]

def memoryItemFromLesson (l : Lesson) (sourceTrace : Trace) (sourceCase : FailureCase) :
    Except Exn MemoryItem := do
  raiseIf (sourceCase.caseId ≠ l.sourceCaseId)
    (valueError "lesson source_case_id must match source_case")
  raiseIf (sourceCase.sourceTraceId ≠ sourceTrace.traceId)
    (valueError "source_case source_trace_id must match source_trace")
  let identity := completeTraceSourceIdentity sourceTrace
  return { memoryId := l.lessonId
           status := l.status.status
           memoryType := l.memoryType
           scope := l.scope
           text := l.lessonText
           sourceCaseId := some l.sourceCaseId
           confidence := l.confidence
           sensitive := l.sensitive
           evalLeaking := l.evalLeaking
           sourceEvalSuite := identity.1
           sourceInputHash := identity.2
           fullText := some (lessonFullCaseText l sourceCase) }

def memoryItemFromFailureCaseForAudit (c : FailureCase) (t : Trace) : Except Exn MemoryItem := do
  raiseIf (c.sourceTraceId ≠ t.traceId)
    (valueError "failure case source_trace_id must match trace")
  raiseIf (c.commitSha ≠ t.commitSha) (valueError "failure case commit_sha must match trace")
  let identity := completeTraceSourceIdentity t
  return { memoryId := c.caseId
           status := c.status.status
           memoryType := .episodic
           scope := failureCaseScope c t
           text := failureCaseText c
           sourceTraceId := some t.traceId
           sourceCaseId := some c.caseId
           sourceEvalSuite := identity.1
           sourceInputHash := identity.2
           fullText := some (failureCaseFullText c) }

def memoryItemFromFailureCase (c : FailureCase) (t : Trace) : Except Exn MemoryItem := do
  raiseIf (c.status ≠ .verified ∨ c.regressionPassed = false)
    (valueError "failure case memory requires a verified regression-backed case")
  raiseIf (c.sourceTraceId ≠ t.traceId)
    (valueError "failure case source_trace_id must match trace")
  raiseIf (c.commitSha ≠ t.commitSha) (valueError "failure case commit_sha must match trace")
  requireVerifiedFailureCase c
  memoryItemFromFailureCaseForAudit c t

def memoryItemFromProjectPolicy (py : Python) (p : ProjectPolicy) : Except Exn MemoryItem := do
  requireNonEmptyString p.policyId (lit "policy_id") none
  validateLessonContract py p.policyText p.scope p.confidence
  return { memoryId := p.policyId
           status := p.status.status
           memoryType := .policy
           scope := p.scope
           text := p.policyText
           sourcePolicyId := some p.policyId
           confidence := p.confidence
           sensitive := p.sensitive
           evalLeaking := p.evalLeaking }

end Items

end TraceBackedMemory
