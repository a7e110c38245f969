import TraceBackedMemory.Store.Snapshot
import TraceBackedMemory.Gate.Session
import TraceBackedMemory.Foundation.JsonRecord
import TraceBackedMemory.Ledger.Payloads

namespace TraceBackedMemory

open Text Raising OrderBy

namespace Migration

section Checks

def invalid (message : Str) : GateError := ⟨.contract, lit "TBM_V3_INVALID_CONTRACT", message⟩

def unicode (value name : Str) : Except GateError Unit :=
  raiseIf (utf8 value = false) (invalid (name ++ lit " must contain valid Unicode"))

def required (limit : Nat) (value name : Str) : Except GateError Unit := do
  raiseIf (isBlank value = true ∨ limit < value.length)
    (invalid (name ++ lit " must be a nonblank string of at most " ++ decimal limit ++ lit " characters"))
  unicode value name

def requiredIdentifier : Str → Str → Except GateError Unit := required memoryIdMaxChars

def requiredMetadata : Str → Str → Except GateError Unit := required metadataValueMaxChars

def requiredReason : Str → Str → Except GateError Unit := required memoryDecisionReasonMaxChars

def optionalIdentifier (value : Option Str) (name : Str) : Except GateError Unit :=
  value.elim (.ok ()) (fun v => requiredIdentifier v name)

def timestamp (value name : Str) : Except GateError Unit :=
  raiseIf (instant? value = none) (invalid (name ++ lit " must be a timezone-aware RFC 3339 date-time"))

def digest (value name : Str) : Except GateError Unit :=
  raiseIf (validDigest value = false) (invalid (name ++ lit " must use sha256:<64 lowercase hex>"))

def named {α : Type} (values : List α) (text : α → Str) (s message : Str) : Except GateError α :=
  demand (values.find? (fun a => decide (text a = s))) (invalid message)

def maxRegistryItems : Nat := 100000

def maxArtifactHashes : Nat := 1000

def maxMigrationCount : Nat := 250000

def stringTuple (values : List Str) (name : Str) : Except GateError Unit := do
  raiseIf (maxRegistryItems < values.length)
    (invalid (name ++ lit " must be a tuple with at most " ++ decimal maxRegistryItems ++ lit " entries"))
  checkEach (fun v => requiredMetadata v name) values
  raiseIf (¬values.Nodup) (invalid (name ++ lit " must not contain duplicates"))

def typedTuple {α : Type} (values : List α) (name : Str) : Except GateError Unit :=
  raiseIf (maxRegistryItems < values.length)
    (invalid (name ++ lit " must be a tuple with at most " ++ decimal maxRegistryItems ++ lit " entries"))

def unique {α κ : Type} [DecidableEq κ] (key : α → κ) (values : List α) (name label : String) :
    Except GateError Unit :=
  raiseIf (¬(values.map key).Nodup) (invalid (lit label ++ lit " must have unique " ++ lit name ++ lit " values"))

def uniqueAliases {α : Type} (key : α → Str) (aliases : α → List Str) (values : List α) (label : String) :
    Except GateError Unit := do
  raiseIf (¬(values.flatMap aliases).Nodup) (invalid (lit label ++ lit " must be globally unique"))
  raiseIf (∃ a ∈ values.flatMap aliases, a ∈ values.map key)
    (invalid (lit label ++ lit " must not overlap canonical identifiers"))

end Checks

section Registries

inductive RepositoryProvider where
  | localGit | github | gitlab | bitbucket | azureDevops | other
  deriving DecidableEq

def RepositoryProvider.text : RepositoryProvider → Str
  | .localGit => lit "local"
  | .github => lit "github"
  | .gitlab => lit "gitlab"
  | .bitbucket => lit "bitbucket"
  | .azureDevops => lit "azure_devops"
  | .other => lit "other"

def repositoryProviders : List RepositoryProvider :=
  [.localGit, .github, .gitlab, .bitbucket, .azureDevops, .other]

structure CanonicalRepository where
  repositoryId : Str
  provider : RepositoryProvider
  providerRepositoryId : Str
  canonicalLocatorHash : Str
  displayName : Str
  legacyAliases : List Str
  deriving DecidableEq

def CanonicalRepository.check (r : CanonicalRepository) : Except GateError Unit := do
  requiredIdentifier r.repositoryId (lit "repository_id")
  requiredMetadata r.providerRepositoryId (lit "provider_repository_id")
  digest r.canonicalLocatorHash (lit "canonical_locator_hash")
  requiredMetadata r.displayName (lit "display_name")
  stringTuple r.legacyAliases (lit "legacy_aliases")

structure TenantIdentity where
  tenantId : Str
  displayName : Str
  legacyAliases : List Str
  deriving DecidableEq

def TenantIdentity.check (t : TenantIdentity) : Except GateError Unit := do
  requiredIdentifier t.tenantId (lit "tenant_id")
  requiredMetadata t.displayName (lit "display_name")
  stringTuple t.legacyAliases (lit "legacy_aliases")

structure TraceIdentityBinding where
  traceId : Str
  repositoryId : Str
  tenantId : Str
  deriving DecidableEq

def TraceIdentityBinding.check (b : TraceIdentityBinding) : Except GateError Unit := do
  requiredIdentifier b.traceId (lit "trace_id")
  requiredIdentifier b.repositoryId (lit "repository_id")
  requiredIdentifier b.tenantId (lit "tenant_id")

end Registries

section Scopes

inductive ScopeKind where
  | global | tenant | repository
  deriving DecidableEq

def ScopeKind.text : ScopeKind → Str
  | .global => lit "global"
  | .tenant => lit "tenant"
  | .repository => lit "repository"

def scopeKinds : List ScopeKind := [.global, .tenant, .repository]

structure AuthorizationScope where
  kind : ScopeKind
  tenantId : Option Str
  repositoryId : Option Str
  attributes : List (Str × Str)
  deriving DecidableEq

def applicabilityFields : List Str :=
  [lit "branch", lit "prompt_version", lit "prompt_family", lit "tool", lit "tool_schema_version",
    lit "model", lit "model_family", lit "eval_suite", lit "task_type", lit "failure_type"]

def checkAttributes (seen : List Str) : List (Str × Str) → Except GateError Unit
  | [] => .ok ()
  | (key, value) :: attributes => do
    requiredMetadata value (lit "attribute " ++ key)
    raiseIf (key ∈ seen) (invalid (lit "attributes must not contain duplicate fields"))
    raiseIf (key ∉ applicabilityFields) (invalid (lit "unsupported applicability attribute: " ++ key))
    checkAttributes (key :: seen) attributes

def AuthorizationScope.check (s : AuthorizationScope) : Except GateError Unit := do
  optionalIdentifier s.tenantId (lit "tenant_id")
  optionalIdentifier s.repositoryId (lit "repository_id")
  raiseIf (s.kind = .global ∧ (s.tenantId ≠ none ∨ s.repositoryId ≠ none))
    (invalid (lit "global scope cannot declare tenant_id or repository_id"))
  raiseIf (s.kind = .tenant ∧ (s.tenantId = none ∨ s.repositoryId ≠ none))
    (invalid (lit "tenant scope requires tenant_id and forbids repository_id"))
  raiseIf (s.kind = .repository ∧ (s.tenantId = none ∨ s.repositoryId = none))
    (invalid (lit "repository scope requires tenant_id and repository_id"))
  checkAttributes [] s.attributes

inductive MemoryScopeKind where
  | lesson | projectPolicy
  deriving DecidableEq

def MemoryScopeKind.text : MemoryScopeKind → Str
  | .lesson => lit "lesson"
  | .projectPolicy => lit "project_policy"

def memoryScopeKinds : List MemoryScopeKind := [.lesson, .projectPolicy]

structure MemoryScopeBinding where
  memoryKind : MemoryScopeKind
  memoryId : Str
  scope : AuthorizationScope
  deriving DecidableEq

def MemoryScopeBinding.check (b : MemoryScopeBinding) : Except GateError Unit := do
  requiredIdentifier b.memoryId (lit "memory_id")
  b.scope.check

end Scopes

section Evidence

inductive CommitRelation where
  | ancestor
  deriving DecidableEq

def CommitRelation.text : CommitRelation → Str
  | .ancestor => lit "ancestor"

def commitRelations : List CommitRelation := [.ancestor]

structure CommitRelationEvidence where
  fromCommitSha : Str
  toCommitSha : Str
  relation : CommitRelation
  verifiedBy : Str
  verifiedAt : Str
  deriving DecidableEq

def CommitRelationEvidence.check (e : CommitRelationEvidence) : Except GateError Unit := do
  requiredMetadata e.fromCommitSha (lit "from_commit_sha")
  requiredMetadata e.toCommitSha (lit "to_commit_sha")
  requiredIdentifier e.verifiedBy (lit "verified_by")
  timestamp e.verifiedAt (lit "verified_at")

inductive MeasuredResult where
  | pass | fail | error
  deriving DecidableEq

def MeasuredResult.text : MeasuredResult → Str
  | .pass => lit "pass"
  | .fail => lit "fail"
  | .error => lit "error"

def measuredResults : List MeasuredResult := [.pass, .fail, .error]

def MeasuredResult.evalResult : MeasuredResult → EvalResult
  | .pass => .pass
  | .fail => .fail
  | .error => .error

structure RegressionEvidence where
  evidenceId : Str
  caseId : Str
  regressionTraceId : Str
  regressionRunId : Str
  evaluatorId : Str
  evaluatorVersion : Str
  evalSuite : Str
  evalCaseId : Str
  evaluatedCommitSha : Str
  result : MeasuredResult
  observedAt : Str
  sourceToFix : CommitRelationEvidence
  fixToRegression : CommitRelationEvidence
  artifactHashes : List Str
  deriving DecidableEq

def RegressionEvidence.identifiers (e : RegressionEvidence) : List (Str × Str) :=
  [(e.evidenceId, lit "evidence_id"), (e.caseId, lit "case_id"),
    (e.regressionTraceId, lit "regression_trace_id"), (e.regressionRunId, lit "regression_run_id"),
    (e.evaluatorId, lit "evaluator_id")]

def RegressionEvidence.metadata (e : RegressionEvidence) : List (Str × Str) :=
  [(e.evaluatorVersion, lit "evaluator_version"), (e.evalSuite, lit "eval_suite"),
    (e.evalCaseId, lit "eval_case_id"), (e.evaluatedCommitSha, lit "evaluated_commit_sha")]

-- the two relations are built, and checked, before the evidence that holds them
def RegressionEvidence.check (e : RegressionEvidence) : Except GateError Unit := do
  e.sourceToFix.check
  e.fixToRegression.check
  checkEach (fun f => requiredIdentifier f.1 f.2) e.identifiers
  checkEach (fun f => requiredMetadata f.1 f.2) e.metadata
  timestamp e.observedAt (lit "observed_at")
  raiseIf (maxArtifactHashes < e.artifactHashes.length)
    (invalid (lit "artifact_hashes must be a tuple with at most " ++ decimal maxArtifactHashes ++ lit " entries"))
  checkEach (fun v => digest v (lit "artifact_hash")) e.artifactHashes
  raiseIf (¬e.artifactHashes.Nodup) (invalid (lit "artifact_hashes must not contain duplicates"))

structure GlobalPolicyApproval where
  policyId : Str
  principalId : Str
  authorizationEventId : Str
  approvedAt : Str
  reason : Str
  deriving DecidableEq

def GlobalPolicyApproval.check (a : GlobalPolicyApproval) : Except GateError Unit := do
  requiredIdentifier a.policyId (lit "policy_id")
  requiredIdentifier a.principalId (lit "principal_id")
  requiredIdentifier a.authorizationEventId (lit "authorization_event_id")
  timestamp a.approvedAt (lit "approved_at")
  requiredReason a.reason (lit "reason")

inductive AncestryMode where
  | required | disabled
  deriving DecidableEq

def AncestryMode.text : AncestryMode → Str
  | .required => lit "required"
  | .disabled => lit "disabled"

def ancestryModes : List AncestryMode := [.required, .disabled]

structure AncestryPolicy where
  mode : AncestryMode
  bypassReason : Option Str
  deriving DecidableEq

def AncestryPolicy.check (p : AncestryPolicy) : Except GateError Unit :=
  match p.mode with
  | .required =>
    raiseIf (p.bypassReason ≠ none) (invalid (lit "required ancestry policy cannot declare bypass_reason"))
  | .disabled => requiredReason (p.bypassReason.getD []) (lit "bypass_reason")

end Evidence

section Mapping

structure SnapshotV3MigrationMapping where
  repositories : List CanonicalRepository
  tenants : List TenantIdentity
  traceBindings : List TraceIdentityBinding
  memoryScopes : List MemoryScopeBinding
  regressionEvidence : List RegressionEvidence
  globalPolicyApprovals : List GlobalPolicyApproval
  ancestryPolicy : AncestryPolicy
  deriving DecidableEq

def SnapshotV3MigrationMapping.checkEntries (m : SnapshotV3MigrationMapping) : Except GateError Unit := do
  checkEach CanonicalRepository.check m.repositories
  checkEach TenantIdentity.check m.tenants
  checkEach TraceIdentityBinding.check m.traceBindings
  checkEach MemoryScopeBinding.check m.memoryScopes
  checkEach RegressionEvidence.check m.regressionEvidence
  checkEach GlobalPolicyApproval.check m.globalPolicyApprovals
  m.ancestryPolicy.check

def scopeKey (b : MemoryScopeBinding) : MemoryScopeKind × Str := (b.memoryKind, b.memoryId)

def SnapshotV3MigrationMapping.check (m : SnapshotV3MigrationMapping) : Except GateError Unit := do
  typedTuple m.repositories (lit "repositories")
  typedTuple m.tenants (lit "tenants")
  typedTuple m.traceBindings (lit "trace_bindings")
  typedTuple m.memoryScopes (lit "memory_scopes")
  typedTuple m.regressionEvidence (lit "regression_evidence")
  typedTuple m.globalPolicyApprovals (lit "global_policy_approvals")
  unique CanonicalRepository.repositoryId m.repositories "repository_id" "repositories"
  unique (fun r : CanonicalRepository => (r.provider, r.providerRepositoryId)) m.repositories
    "provider/provider_repository_id" "repositories"
  uniqueAliases CanonicalRepository.repositoryId CanonicalRepository.legacyAliases m.repositories
    "repository legacy aliases"
  unique TenantIdentity.tenantId m.tenants "tenant_id" "tenants"
  uniqueAliases TenantIdentity.tenantId TenantIdentity.legacyAliases m.tenants "tenant legacy aliases"
  unique TraceIdentityBinding.traceId m.traceBindings "trace_id" "trace_bindings"
  unique scopeKey m.memoryScopes "memory_kind/memory_id" "memory_scopes"
  unique RegressionEvidence.caseId m.regressionEvidence "case_id" "regression_evidence"
  unique RegressionEvidence.evidenceId m.regressionEvidence "evidence_id" "regression_evidence"
  unique GlobalPolicyApproval.policyId m.globalPolicyApprovals "policy_id" "global_policy_approvals"

-- a mapping that came out of its constructor, its entries out of theirs
abbrev MigrationMapping :=
  { m : SnapshotV3MigrationMapping // m.checkEntries = .ok () ∧ m.check = .ok () }

end Mapping

section Plans

inductive MigrationIssueSeverity where
  | error | warning
  deriving DecidableEq

def MigrationIssueSeverity.text : MigrationIssueSeverity → Str
  | .error => lit "error"
  | .warning => lit "warning"

def issueSeverities : List MigrationIssueSeverity := [.error, .warning]

structure V3MigrationIssue where
  code : Str
  severity : MigrationIssueSeverity
  recordKind : Str
  recordId : Str
  message : Str
  deriving DecidableEq

def V3MigrationIssue.check (i : V3MigrationIssue) : Except GateError Unit := do
  requiredIdentifier i.code (lit "code")
  requiredIdentifier i.recordKind (lit "record_kind")
  requiredIdentifier i.recordId (lit "record_id")
  requiredReason i.message (lit "message")

structure SnapshotV3MigrationPlan where
  sourceSnapshotSha256 : Str
  mappingSha256 : Str
  ready : Bool
  counts : List (Str × Int)
  issues : List V3MigrationIssue
  deriving DecidableEq

def planCountNames : List Str :=
  [lit "errors", lit "failure_cases", lit "lessons", lit "mapped_scopes", lit "project_policies",
    lit "regression_evidence", lit "repositories", lit "tenants", lit "traces", lit "usage_logs",
    lit "warnings"]

def checkCounts (seen : List Str) : List (Str × Int) → Except GateError Unit
  | [] => .ok ()
  | (name, value) :: counts => do
    requiredIdentifier name (lit "count name")
    raiseIf (name ∈ seen) (invalid (lit "counts must not contain duplicate names"))
    raiseIf (value < 0 ∨ maxMigrationCount < value)
      (invalid (lit "count values must be integers from 0 through " ++ decimal maxMigrationCount))
    checkCounts (name :: seen) counts

def countOf (counts : List (Str × Int)) (name : Str) : Int := (Dict.lookupIn name counts).getD 0

def errorCount (issues : List V3MigrationIssue) : Nat := issues.countP (fun i => decide (i.severity = .error))

def SnapshotV3MigrationPlan.check (p : SnapshotV3MigrationPlan) : Except GateError Unit := do
  digest p.sourceSnapshotSha256 (lit "source_snapshot_sha256")
  digest p.mappingSha256 (lit "mapping_sha256")
  checkCounts [] p.counts
  raiseIf (¬((∀ name ∈ p.counts.map Prod.fst, name ∈ planCountNames) ∧
      ∀ name ∈ planCountNames, name ∈ p.counts.map Prod.fst))
    (invalid (lit "counts must contain the complete v3 migration count set"))
  typedTuple p.issues (lit "issues")
  raiseIf (countOf p.counts (lit "errors") ≠ errorCount p.issues ∨
      countOf p.counts (lit "warnings") ≠ p.issues.length - errorCount p.issues)
    (invalid (lit "error and warning counts must match migration issues"))
  raiseIf (p.ready = decide (0 < errorCount p.issues))
    (invalid (lit "ready must be true exactly when the plan has no errors"))

abbrev MigrationPlan :=
  { p : SnapshotV3MigrationPlan // checkEach V3MigrationIssue.check p.issues = .ok () ∧ p.check = .ok () }

end Plans

end Migration

end TraceBackedMemory
