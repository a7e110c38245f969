import TraceBackedMemory.Migration.Documents
import TraceBackedMemory.Ledger.EventContract
import TraceBackedMemory.Store.Snapshot

namespace TraceBackedMemory

open Text Raising OrderBy Json EventContract

namespace Migration

section Sources

def sourceMaxDepth : Nat := 100

mutual

def freezable (depth : Nat) : Json → Bool
  | .null | .bool _ | .num (.int _) => decide (depth ≤ sourceMaxDepth)
  | .num (.float x) => decide (depth ≤ sourceMaxDepth) && x.isFinite
  | .str s => decide (depth ≤ sourceMaxDepth) && utf8 s
  | .arr items => decide (depth ≤ sourceMaxDepth) && freezableItems (depth + 1) items
  | .obj fields => decide (depth ≤ sourceMaxDepth) && freezableFields (depth + 1) fields

def freezableItems (depth : Nat) : List Json → Bool
  | [] => true
  | v :: items => freezable depth v && freezableItems depth items

def freezableFields (depth : Nat) : List (Str × Json) → Bool
  | [] => true
  | (key, v) :: fields => utf8 key && freezable depth v && freezableFields depth fields

end

mutual

def strings : Json → List Str
  | .str s => [s]
  | .arr items => itemStrings items
  | .obj fields => fieldStrings fields
  | _ => []

def itemStrings : List Json → List Str
  | [] => []
  | v :: items => strings v ++ itemStrings items

def fieldStrings : List (Str × Json) → List Str
  | [] => []
  | (_, v) :: fields => strings v ++ fieldStrings fields

end

def recordIds (data : Snapshot) : List Str :=
  data.traces.map Trace.traceId ++ data.failureCases.map FailureCase.caseId ++
    data.lessons.map Lesson.lessonId ++ data.projectPolicies.map ProjectPolicy.policyId ++
    data.usageLogs.map (fun r => r.log.decisionId)

-- a snapshot mapping and the records that its loader reads from it
structure SnapshotSource where
  document : Mapping
  snapshot : Snapshot
  current : snapshot.isV2 = true
  recorded : ∀ id ∈ recordIds snapshot, id ∈ strings document.1

def invalidSource : GateError :=
  ⟨.contract, lit "TBM_V3_INVALID_SOURCE_SNAPSHOT", lit "source snapshot failed strict version-2 validation"⟩

def freezeSourceSnapshot (document : Json) : Except GateError Fields :=
  match document with
  | .obj fields => do
    raiseIf (freezable 0 document = false) invalidSource
    return fields
  | _ => .error ⟨.contract, lit "TBM_V3_INVALID_SOURCE",
      lit "source must be a TraceBackedMemoryStore or snapshot object"⟩

def versionMismatch : GateError :=
  ⟨.contract, lit "TBM_V3_SOURCE_VERSION_MISMATCH",
    lit "v3 migration preflight requires an explicit snapshot version 2"⟩

-- a KeyError, an IndexError and an interrupt are not among the errors the planner turns into its own
def sourceFault : Exn → GateError
  | .keyError key => ⟨.persistence, lit "KeyError", key⟩
  | .indexError => ⟨.persistence, lit "IndexError", []⟩
  | .interrupt => ⟨.persistence, lit "KeyboardInterrupt", []⟩
  | _ => invalidSource

def loadSource (py : Python) (env : Env) (token : Nat) (session : SessionId) (source : SnapshotSource) :
    Except GateError Store := do
  let fields ← freezeSourceSnapshot source.document.1
  raiseIf (valueAt fields (lit "snapshot_version") ≠ .num (.int 2)) versionMismatch
  match fromSnapshot py env token session {} source.snapshot with
  | .ok store => .ok store
  | .error e => .error (sourceFault e)

def canonicalSha256 (hash : TextHash) (codec : FloatCodec) (value : Json) : Except GateError Str := do
  let _ ← demand (canonicalBytes codec.repr value)
    ⟨.contract, lit "TBM_V3_NON_CANONICAL_JSON", lit "value cannot be encoded as finite canonical JSON"⟩
  return (hash.canonical codec).domain [] value

end Sources

section Lookups

def keyed {α κ : Type} [DecidableEq κ] (key : α → κ) (l : List α) (k : κ) : Option α :=
  l.find? (fun a => decide (key a = k))

variable (m : SnapshotV3MigrationMapping)

namespace SnapshotV3MigrationMapping

def repository? : Str → Option CanonicalRepository := keyed CanonicalRepository.repositoryId m.repositories

def tenant? : Str → Option TenantIdentity := keyed TenantIdentity.tenantId m.tenants

def traceBinding? : Str → Option TraceIdentityBinding := keyed TraceIdentityBinding.traceId m.traceBindings

def scopeBinding? (kind : MemoryScopeKind) (memoryId : Str) : Option MemoryScopeBinding :=
  keyed scopeKey m.memoryScopes (kind, memoryId)

def evidence? : Str → Option RegressionEvidence := keyed RegressionEvidence.caseId m.regressionEvidence

def approval? : Str → Option GlobalPolicyApproval := keyed GlobalPolicyApproval.policyId m.globalPolicyApprovals

end SnapshotV3MigrationMapping

def flag (p : Prop) [Decidable p] (i : V3MigrationIssue) : List V3MigrationIssue := if p then [i] else []

def errorIssue (code : String) (kind id message : Str) : V3MigrationIssue := ⟨lit code, .error, kind, id, message⟩

def warningIssue (code : String) (kind id message : Str) : V3MigrationIssue := ⟨lit code, .warning, kind, id, message⟩

end Lookups

section Traces

def traceError (code : String) (t : Trace) (message : Str) : V3MigrationIssue :=
  errorIssue code (lit "trace") t.traceId message

def traceWarning (code : String) (t : Trace) (message : Str) : V3MigrationIssue :=
  warningIssue code (lit "trace") t.traceId message

def planTraceRepository (t : Trace) (b : TraceIdentityBinding) : Option CanonicalRepository → List V3MigrationIssue
  | none => [traceError "TBM_V3_UNKNOWN_REPOSITORY" t (lit "unknown repository_id: " ++ b.repositoryId)]
  | some r =>
    match t.repo with
    | none => [traceWarning "TBM_V3_LEGACY_REPO_MISSING" t
        (lit "legacy Trace has no repo; explicit canonical binding is retained")]
    | some repo => flag (repo ∉ r.legacyAliases) (traceError "TBM_V3_REPOSITORY_ALIAS_MISMATCH" t
        (lit "legacy Trace repo is not an alias of the bound repository"))

def planTraceTenant (t : Trace) (b : TraceIdentityBinding) : Option TenantIdentity → List V3MigrationIssue
  | none => [traceError "TBM_V3_UNKNOWN_TENANT" t (lit "unknown tenant_id: " ++ b.tenantId)]
  | some n =>
    match t.tenant with
    | none => [traceWarning "TBM_V3_LEGACY_TENANT_MISSING" t
        (lit "legacy Trace has no tenant; explicit canonical binding is retained")]
    | some tenant => flag (tenant ∉ n.legacyAliases) (traceError "TBM_V3_TENANT_ALIAS_MISMATCH" t
        (lit "legacy Trace tenant is not an alias of the bound tenant"))

def planTraceIdentity (m : SnapshotV3MigrationMapping) (t : Trace) : List V3MigrationIssue :=
  match m.traceBinding? t.traceId with
  | none => [traceError "TBM_V3_TRACE_IDENTITY_REQUIRED" t
      (lit "Trace requires an explicit canonical repository and tenant binding")]
  | some b => planTraceRepository t b (m.repository? b.repositoryId) ++ planTraceTenant t b (m.tenant? b.tenantId)

end Traces

section Memories

inductive SourceMemory where
  | lesson (l : Lesson)
  | projectPolicy (p : ProjectPolicy)

def SourceMemory.kind : SourceMemory → MemoryScopeKind
  | .lesson _ => .lesson
  | .projectPolicy _ => .projectPolicy

def SourceMemory.memoryId : SourceMemory → Str
  | .lesson l => l.lessonId
  | .projectPolicy p => p.policyId

def SourceMemory.scope : SourceMemory → Scope
  | .lesson l => l.scope
  | .projectPolicy p => p.scope

def memoryError (code : String) (memory : SourceMemory) (message : Str) : V3MigrationIssue :=
  errorIssue code memory.kind.text memory.memoryId message

def planScopeField (memory : SourceMemory) (scope : AuthorizationScope) (repository : Option CanonicalRepository)
    (tenant : Option TenantIdentity) (f : Str × Str) : List V3MigrationIssue :=
  if f.1 = lit "repo" then
    flag (scope.kind ≠ .repository ∨ ∀ r ∈ repository, f.2 ∉ r.legacyAliases)
      (memoryError "TBM_V3_SCOPE_REPOSITORY_BROADENED" memory
        (lit "legacy repo scope must map to the same repository scope"))
  else if f.1 = lit "tenant" then
    flag (∀ n ∈ tenant, f.2 ∉ n.legacyAliases)
      (memoryError "TBM_V3_SCOPE_TENANT_BROADENED" memory (lit "legacy tenant scope must map to the same tenant"))
  else
    flag (Dict.lookupIn f.1 scope.attributes ≠ some f.2)
      (memoryError "TBM_V3_APPLICABILITY_BROADENED" memory
        (lit "legacy applicability field is not preserved: " ++ f.1))

def planLessonSource (m : SnapshotV3MigrationMapping) (cases : Dict Str FailureCase) (memory : SourceMemory)
    (scope : AuthorizationScope) (sourceCaseId : Str) : List V3MigrationIssue :=
  match (cases.get? sourceCaseId).bind (fun c => m.traceBinding? c.sourceTraceId) with
  | none => []
  | some b =>
    flag (scope.tenantId ≠ some b.tenantId)
      (memoryError "TBM_V3_LESSON_SOURCE_TENANT_MISMATCH" memory
        (lit "lesson scope tenant does not match its source Trace")) ++
    flag (scope.kind = .repository ∧ scope.repositoryId ≠ some b.repositoryId)
      (memoryError "TBM_V3_LESSON_SOURCE_REPOSITORY_MISMATCH" memory
        (lit "lesson scope repository does not match its source Trace"))

def planScopeTargets (m : SnapshotV3MigrationMapping) (memory : SourceMemory) (scope : AuthorizationScope) :
    List V3MigrationIssue :=
  flag (scope.repositoryId ≠ none ∧ scope.repositoryId.bind m.repository? = none)
    (memoryError "TBM_V3_UNKNOWN_REPOSITORY" memory
      (lit "unknown repository_id: " ++ scope.repositoryId.getD [])) ++
  flag (scope.tenantId ≠ none ∧ scope.tenantId.bind m.tenant? = none)
    (memoryError "TBM_V3_UNKNOWN_TENANT" memory (lit "unknown tenant_id: " ++ scope.tenantId.getD [])) ++
  flag (memory.kind = .lesson ∧ scope.kind = .global)
    (memoryError "TBM_V3_GLOBAL_LESSON_FORBIDDEN" memory
      (lit "only project policies may use global authorization scope")) ++
  flag (memory.kind = .projectPolicy ∧ scope.kind = .global ∧ m.approval? memory.memoryId = none)
    (memoryError "TBM_V3_GLOBAL_POLICY_APPROVAL_REQUIRED" memory
      (lit "global policy requires a privileged approval record"))

def planMemoryScope (m : SnapshotV3MigrationMapping) (cases : Dict Str FailureCase) (memory : SourceMemory) :
    List V3MigrationIssue :=
  match m.scopeBinding? memory.kind memory.memoryId with
  | none => [memoryError "TBM_V3_EXPLICIT_SCOPE_REQUIRED" memory
      (lit "memory requires an explicit global, tenant, or repository scope")]
  | some b =>
    planScopeTargets m memory b.scope ++
    memory.scope.entries.flatMap (planScopeField memory b.scope (b.scope.repositoryId.bind m.repository?)
      (b.scope.tenantId.bind m.tenant?)) ++
    match memory with
    | .lesson l => planLessonSource m cases memory b.scope l.sourceCaseId
    | .projectPolicy _ => []

end Memories

section Evidence

inductive VerifierReply where
  | raised
  | invalid
  | answered (verified : Bool)
  deriving DecidableEq

abbrev CommitRelationVerifier := Str → CommitRelationEvidence → VerifierReply

def caseError (code : String) (c : FailureCase) (message : Str) : V3MigrationIssue :=
  errorIssue code (lit "failure_case") c.caseId message

def planRelation (c : FailureCase) (verifier : CommitRelationVerifier) (repositoryId : Str)
    (f : Str × CommitRelationEvidence) : List V3MigrationIssue :=
  match verifier repositoryId f.2 with
  | .raised => [caseError "TBM_V3_ANCESTRY_VERIFICATION_FAILED" c
      (lit "trusted verifier failed while checking " ++ f.1)]
  | .invalid => [caseError "TBM_V3_ANCESTRY_VERIFICATION_FAILED" c
      (lit "trusted verifier returned an invalid result for " ++ f.1)]
  | .answered verified => flag (verified = false) (caseError "TBM_V3_COMMIT_RELATION_UNVERIFIED" c
      (lit "trusted verifier rejected " ++ f.1))

def RegressionEvidence.relations (e : RegressionEvidence) : List (Str × CommitRelationEvidence) :=
  [(lit "source_to_fix", e.sourceToFix), (lit "fix_to_regression", e.fixToRegression)]

def planRelations (c : FailureCase) (e : RegressionEvidence) (repositoryId : Str) :
    Option CommitRelationVerifier → List V3MigrationIssue
  | none => []
  | some verifier => e.relations.flatMap (planRelation c verifier repositoryId)

def sharedIdentity (b b' : TraceIdentityBinding) : Bool :=
  decide (b.repositoryId = b'.repositoryId) && decide (b.tenantId = b'.tenantId)

def identityMismatch (c : FailureCase) : V3MigrationIssue :=
  caseError "TBM_V3_REGRESSION_IDENTITY_MISMATCH" c
    (lit "source and regression Traces require the same repository and tenant")

def planIdentity (m : SnapshotV3MigrationMapping) (traces : Dict Str Trace)
    (verifier : Option CommitRelationVerifier) (c : FailureCase) (e : RegressionEvidence) (t : Trace) :
    List V3MigrationIssue :=
  match (traces.get? c.sourceTraceId).bind (fun s => m.traceBinding? s.traceId), m.traceBinding? t.traceId with
  | some b, some b' =>
    if sharedIdentity b b' then planRelations c e b.repositoryId verifier else [identityMismatch c]
  | _, _ => [identityMismatch c]

def traceMatches (e : RegressionEvidence) (t : Trace) : Bool :=
  decide (t.runId = e.regressionRunId ∧ t.commitSha = e.evaluatedCommitSha ∧
    t.evalResult = e.result.evalResult ∧ t.evalSuite = some e.evalSuite)

def planRegressionTrace (m : SnapshotV3MigrationMapping) (traces : Dict Str Trace)
    (verifier : Option CommitRelationVerifier) (c : FailureCase) (e : RegressionEvidence) : List V3MigrationIssue :=
  match traces.get? e.regressionTraceId with
  | none => [caseError "TBM_V3_REGRESSION_TRACE_REQUIRED" c
      (lit "regression evidence must reference a stored Trace")]
  | some t =>
    flag (traceMatches e t = false) (caseError "TBM_V3_REGRESSION_TRACE_MISMATCH" c
      (lit "regression Trace does not match run, commit, suite, and result evidence")) ++
    planIdentity m traces verifier c e t

def planCommits (c : FailureCase) (e : RegressionEvidence) : List V3MigrationIssue :=
  match c.fixCommitSha with
  | none => [caseError "TBM_V3_FIX_COMMIT_REQUIRED" c
      (lit "structured regression evidence requires fix_commit_sha")]
  | some fix =>
    flag (e.sourceToFix.fromCommitSha ≠ c.commitSha ∨ e.sourceToFix.toCommitSha ≠ fix)
      (caseError "TBM_V3_SOURCE_FIX_RELATION_MISMATCH" c
        (lit "source-to-fix relation does not bind the case commits")) ++
    flag (e.fixToRegression.fromCommitSha ≠ fix ∨ e.fixToRegression.toCommitSha ≠ e.evaluatedCommitSha)
      (caseError "TBM_V3_FIX_REGRESSION_RELATION_MISMATCH" c
        (lit "fix-to-regression relation does not bind evaluated commit"))

def evidenceRequired (c : FailureCase) : Bool := decide (c.status = .verified) || c.regressionPassed

def planRegressionEvidence (m : SnapshotV3MigrationMapping) (traces : Dict Str Trace)
    (verifier : Option CommitRelationVerifier) (c : FailureCase) : List V3MigrationIssue :=
  match m.evidence? c.caseId with
  | none => flag (evidenceRequired c = true) (caseError "TBM_V3_STRUCTURED_REGRESSION_REQUIRED" c
      (lit "verified legacy case requires structured regression evidence"))
  | some e =>
    flag (evidenceRequired c = false) (warningIssue "TBM_V3_UNUSED_REGRESSION_EVIDENCE" (lit "failure_case") c.caseId
      (lit "structured evidence is not used by this unverified legacy case")) ++
    flag (e.result ≠ .pass) (caseError "TBM_V3_REGRESSION_NOT_PASSING" c
      (lit "verified case requires a passing regression result")) ++
    planCommits c e ++ planRegressionTrace m traces verifier c e

end Evidence

section Plans

variable (m : SnapshotV3MigrationMapping) (store : Store) (verifier : Option CommitRelationVerifier)

def planAncestry : List V3MigrationIssue :=
  match m.ancestryPolicy.mode with
  | .required => flag (verifier.isNone = true)
      (errorIssue "TBM_V3_ANCESTRY_VERIFIER_REQUIRED" (lit "ancestry_policy") (lit "*")
        (lit "required ancestry policy needs a trusted commit-relation verifier"))
  | .disabled => [warningIssue "TBM_V3_ANCESTRY_DISABLED" (lit "ancestry_policy") (lit "*")
      (lit "commit ancestry verification is disabled under an explicit operator bypass")]

def sourceMemories : List SourceMemory :=
  store.lessons.values.map .lesson ++ store.projectPolicies.values.map .projectPolicy

def unknownTraceBindings : List V3MigrationIssue :=
  (sortedStrings ((m.traceBindings.map TraceIdentityBinding.traceId).filter
    (fun id => !store.traces.contains id))).map (fun id =>
      errorIssue "TBM_V3_UNKNOWN_TRACE_BINDING" (lit "trace") id
        (lit "trace binding does not reference a source snapshot Trace"))

def knownMemory (b : MemoryScopeBinding) : Bool :=
  match b.memoryKind with
  | .lesson => store.lessons.contains b.memoryId
  | .projectPolicy => store.projectPolicies.contains b.memoryId

def unknownScopeBindings : List V3MigrationIssue :=
  (orderBy scopeOrder (m.memoryScopes.filter (fun b => !knownMemory store b))).map (fun b =>
    errorIssue "TBM_V3_UNKNOWN_SCOPE_BINDING" b.memoryKind.text b.memoryId
      (lit "scope binding does not reference a source snapshot memory"))

def unknownCases : List V3MigrationIssue :=
  (sortedStrings ((m.regressionEvidence.map RegressionEvidence.caseId).filter
    (fun id => !store.failureCases.contains id))).map (fun id =>
      errorIssue "TBM_V3_UNKNOWN_REGRESSION_CASE" (lit "failure_case") id
        (lit "regression evidence does not reference a source FailureCase"))

def globalPolicy (policyId : Str) : Bool :=
  m.memoryScopes.any (fun b =>
    decide (b.memoryKind = .projectPolicy ∧ b.memoryId = policyId ∧ b.scope.kind = .global))

def unusedApprovals : List V3MigrationIssue :=
  (sortedStrings ((m.globalPolicyApprovals.map GlobalPolicyApproval.policyId).filter
    (fun id => !globalPolicy m id))).map (fun id =>
      warningIssue "TBM_V3_UNUSED_GLOBAL_APPROVAL" (lit "project_policy") id
        (lit "global-policy approval is not used by a global scope binding"))

def unboundLog (log : MemoryUsageLog) : Bool := (log.traceId.bind m.traceBinding?).isNone

def planUsage : List V3MigrationIssue :=
  (store.usageLogs.filter (unboundLog m)).map (fun log =>
    errorIssue "TBM_V3_USAGE_TRACE_BINDING_REQUIRED" (lit "usage_log") log.decisionId
      (lit "usage log requires a Trace with an explicit identity binding")) ++
  flag (store.usageLogs ≠ []) (warningIssue "TBM_V3_LEGACY_REPLAY_PARTIAL" (lit "usage_log") (lit "*")
    (decimal store.usageLogs.length ++
      lit " v2 usage logs lack complete replay metadata and must remain marked legacy_partial"))

def activeVerifier : Option CommitRelationVerifier :=
  match m.ancestryPolicy.mode with
  | .required => verifier
  | .disabled => none

def planIssues : List V3MigrationIssue :=
  planAncestry m verifier ++
  store.traces.values.flatMap (planTraceIdentity m) ++ unknownTraceBindings m store ++
  (sourceMemories store).flatMap (planMemoryScope m store.failureCases) ++ unknownScopeBindings m store ++
  store.failureCases.values.flatMap (planRegressionEvidence m store.traces (activeVerifier m verifier)) ++
  unknownCases m store ++ unusedApprovals m ++ planUsage m store

def MigrationIssueSeverity.rank : MigrationIssueSeverity → Nat
  | .error => 0
  | .warning => 1

def issueOrder (i : V3MigrationIssue) : Nat ×ₗ Str ×ₗ Str ×ₗ Str ×ₗ Str :=
  toLex (i.severity.rank, toLex (i.code, toLex (i.recordKind, toLex (i.recordId, i.message))))

def planCounts (issues : List V3MigrationIssue) : List (Str × Int) :=
  [(lit "errors", errorCount issues), (lit "failure_cases", store.failureCases.size),
    (lit "lessons", store.lessons.size), (lit "mapped_scopes", m.memoryScopes.length),
    (lit "project_policies", store.projectPolicies.size), (lit "regression_evidence", m.regressionEvidence.length),
    (lit "repositories", m.repositories.length), (lit "tenants", m.tenants.length),
    (lit "traces", store.traces.size), (lit "usage_logs", store.usageLogs.length),
    (lit "warnings", (issues.length - errorCount issues : Int))]

def planOf (sourceSha mappingSha : Str) (issues : List V3MigrationIssue) : SnapshotV3MigrationPlan where
  sourceSnapshotSha256 := sourceSha
  mappingSha256 := mappingSha
  ready := decide (errorCount issues = 0)
  counts := planCounts m store issues
  issues := issues

end Plans

section Planning

variable (py : Python) (env : Env) (token : Nat) (session : SessionId) (hash : TextHash) (codec : FloatCodec)

def planSnapshotV3Migration (source : SnapshotSource) (m : MigrationMapping)
    (verifier : Option CommitRelationVerifier) : Except GateError SnapshotV3MigrationPlan := do
  let store ← loadSource py env token session source
  let issues := orderBy issueOrder (planIssues m.1 store verifier)
  checkEach V3MigrationIssue.check issues
  let sourceSha ← canonicalSha256 hash codec source.document.1
  let mappingSha ← canonicalSha256 hash codec m.1.toDict
  let p := planOf m.1 store sourceSha mappingSha issues
  p.check
  return p

end Planning

end Migration

end TraceBackedMemory
