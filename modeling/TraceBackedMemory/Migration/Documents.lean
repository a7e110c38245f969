import TraceBackedMemory.Migration.Contracts

namespace TraceBackedMemory

open Text Raising OrderBy Json

namespace Migration

section Encoding

def jsonStrings (l : List Str) : Json := .arr (l.map .str)

def nullable (s : Option Str) : Json := s.elim .null .str

def sortedStrings (l : List Str) : List Str := orderBy id l

def CanonicalRepository.entries (r : CanonicalRepository) : Fields :=
  [(lit "repository_id", .str r.repositoryId), (lit "provider", .str r.provider.text),
    (lit "provider_repository_id", .str r.providerRepositoryId),
    (lit "canonical_locator_hash", .str r.canonicalLocatorHash), (lit "display_name", .str r.displayName),
    (lit "legacy_aliases", jsonStrings (sortedStrings r.legacyAliases))]

def TenantIdentity.entries (t : TenantIdentity) : Fields :=
  [(lit "tenant_id", .str t.tenantId), (lit "display_name", .str t.displayName),
    (lit "legacy_aliases", jsonStrings (sortedStrings t.legacyAliases))]

def TraceIdentityBinding.entries (b : TraceIdentityBinding) : Fields :=
  [(lit "trace_id", .str b.traceId), (lit "repository_id", .str b.repositoryId), (lit "tenant_id", .str b.tenantId)]

def attributeFields (attributes : List (Str × Str)) : Fields :=
  (orderBy Prod.fst attributes).map (fun a => (a.1, .str a.2))

def AuthorizationScope.entries (s : AuthorizationScope) : Fields :=
  [(lit "kind", .str s.kind.text), (lit "tenant_id", nullable s.tenantId),
    (lit "repository_id", nullable s.repositoryId), (lit "attributes", .obj (attributeFields s.attributes))]

def MemoryScopeBinding.entries (b : MemoryScopeBinding) : Fields :=
  [(lit "memory_kind", .str b.memoryKind.text), (lit "memory_id", .str b.memoryId),
    (lit "scope", .obj b.scope.entries)]

def CommitRelationEvidence.entries (e : CommitRelationEvidence) : Fields :=
  [(lit "from_commit_sha", .str e.fromCommitSha), (lit "to_commit_sha", .str e.toCommitSha),
    (lit "relation", .str e.relation.text), (lit "verified_by", .str e.verifiedBy),
    (lit "verified_at", .str e.verifiedAt)]

def RegressionEvidence.entries (e : RegressionEvidence) : Fields :=
  [(lit "evidence_id", .str e.evidenceId), (lit "case_id", .str e.caseId),
    (lit "regression_trace_id", .str e.regressionTraceId), (lit "regression_run_id", .str e.regressionRunId),
    (lit "evaluator_id", .str e.evaluatorId), (lit "evaluator_version", .str e.evaluatorVersion),
    (lit "eval_suite", .str e.evalSuite), (lit "eval_case_id", .str e.evalCaseId),
    (lit "evaluated_commit_sha", .str e.evaluatedCommitSha), (lit "result", .str e.result.text),
    (lit "observed_at", .str e.observedAt), (lit "source_to_fix", .obj e.sourceToFix.entries),
    (lit "fix_to_regression", .obj e.fixToRegression.entries),
    (lit "artifact_hashes", jsonStrings (sortedStrings e.artifactHashes))]

def GlobalPolicyApproval.entries (a : GlobalPolicyApproval) : Fields :=
  [(lit "policy_id", .str a.policyId), (lit "principal_id", .str a.principalId),
    (lit "authorization_event_id", .str a.authorizationEventId), (lit "approved_at", .str a.approvedAt),
    (lit "reason", .str a.reason)]

def AncestryPolicy.entries (p : AncestryPolicy) : Fields :=
  [(lit "mode", .str p.mode.text), (lit "bypass_reason", nullable p.bypassReason)]

def mappingVersion : Str := lit "tbm.snapshot.v2-to-v3.mapping.v1"

def objects {α : Type} (entries : α → Fields) (l : List α) : Json := .arr (l.map (fun a => .obj (entries a)))

def scopeOrder (b : MemoryScopeBinding) : Str ×ₗ Str := toLex (b.memoryKind.text, b.memoryId)

def evidenceOrder (e : RegressionEvidence) : Str ×ₗ Str := toLex (e.caseId, e.evidenceId)

def SnapshotV3MigrationMapping.entries (m : SnapshotV3MigrationMapping) : Fields :=
  [(lit "mapping_version", .str mappingVersion),
    (lit "repositories",
      objects CanonicalRepository.entries (orderBy CanonicalRepository.repositoryId m.repositories)),
    (lit "tenants", objects TenantIdentity.entries (orderBy TenantIdentity.tenantId m.tenants)),
    (lit "trace_bindings",
      objects TraceIdentityBinding.entries (orderBy TraceIdentityBinding.traceId m.traceBindings)),
    (lit "memory_scopes", objects MemoryScopeBinding.entries (orderBy scopeOrder m.memoryScopes)),
    (lit "regression_evidence", objects RegressionEvidence.entries (orderBy evidenceOrder m.regressionEvidence)),
    (lit "global_policy_approvals",
      objects GlobalPolicyApproval.entries (orderBy GlobalPolicyApproval.policyId m.globalPolicyApprovals)),
    (lit "ancestry_policy", .obj m.ancestryPolicy.entries)]

def SnapshotV3MigrationMapping.toDict (m : SnapshotV3MigrationMapping) : Json := .obj m.entries

def V3MigrationIssue.entries (i : V3MigrationIssue) : Fields :=
  [(lit "code", .str i.code), (lit "severity", .str i.severity.text), (lit "record_kind", .str i.recordKind),
    (lit "record_id", .str i.recordId), (lit "message", .str i.message)]

def planVersion : Str := lit "tbm.snapshot.v2-to-v3.plan.v1"

def SnapshotV3MigrationPlan.entries (p : SnapshotV3MigrationPlan) : Fields :=
  [(lit "plan_version", .str planVersion), (lit "source_snapshot_version", .num (.int 2)),
    (lit "target_snapshot_version", .num (.int 3)),
    (lit "source_snapshot_sha256", .str p.sourceSnapshotSha256), (lit "mapping_sha256", .str p.mappingSha256),
    (lit "ready", .bool p.ready),
    (lit "counts", .obj (planCountNames.map (fun name => (name, .num (.int (countOf p.counts name)))))),
    (lit "issues", objects V3MigrationIssue.entries p.issues)]

def SnapshotV3MigrationPlan.toDict (p : SnapshotV3MigrationPlan) : Json := .obj p.entries

end Encoding

section Reading

def missingField (label : Str) (actual expected : List Str) : Except GateError Unit :=
  match firstOutside actual expected with
  | some name => .error (invalid (label ++ lit " missing required field: " ++ name))
  | none => .ok ()

def unknownField (label : Str) (actual expected : List Str) : Except GateError Unit :=
  match firstOutside expected actual with
  | some name => .error (invalid (label ++ lit " has unknown field: " ++ name))
  | none => .ok ()

def object (label : String) (names : List Str) (value : Json) : Except GateError Fields :=
  match value with
  | .obj fields => do
    checkEach (fun f => unicode f.1 (lit label ++ lit " field name")) fields
    missingField (lit label) (fields.map Prod.fst) names
    unknownField (lit label) (fields.map Prod.fst) names
    return fields
  | _ => .error (invalid (lit label ++ lit " must be an object"))

def string (value : Json) (label : Str) : Except GateError Str :=
  match value with
  | .str s => do
    unicode s label
    return s
  | _ => .error (invalid (label ++ lit " must be a string"))

def nullableString (value : Json) (label : Str) : Except GateError (Option Str) :=
  match value with
  | .null => .ok none
  | value => do
    let s ← string value label
    return some s

def array (value : Json) (label : Str) : Except GateError (List Json) :=
  match value with
  | .arr items => do
    raiseIf (maxRegistryItems < items.length)
      (invalid (label ++ lit " contains more than " ++ decimal maxRegistryItems ++ lit " items"))
    return items
  | _ => .error (invalid (label ++ lit " must be an array"))

def integer (value : Json) (label : Str) : Except GateError Int :=
  match value with
  | .num (.int i) => .ok i
  | _ => .error (invalid (label ++ lit " must be an integer"))

def boolean (value : Json) (label : Str) : Except GateError Bool :=
  match value with
  | .bool b => .ok b
  | _ => .error (invalid (label ++ lit " must be a boolean"))

def stringAt (fields : Fields) (name : String) : Except GateError Str := string (valueAt fields (lit name)) (lit name)

def nullableAt (fields : Fields) (name : String) : Except GateError (Option Str) :=
  nullableString (valueAt fields (lit name)) (lit name)

def stringsAt (fields : Fields) (name : String) : Except GateError (List Str) := do
  let items ← array (valueAt fields (lit name)) (lit name)
  collect (fun item => string item (lit name)) items

def recordsAt {α : Type} (parse : Json → Except GateError α) (fields : Fields) (name : String) :
    Except GateError (List α) := do
  let items ← array (valueAt fields (lit name)) (lit name)
  collect parse items

end Reading

section Parsing

def repositoryNames : List Str :=
  [lit "repository_id", lit "provider", lit "provider_repository_id", lit "canonical_locator_hash",
    lit "display_name", lit "legacy_aliases"]

-- the constructor checks the identifier before it looks at the provider
def parseRepository (value : Json) : Except GateError CanonicalRepository := do
  let item ← object "repository" repositoryNames value
  let repositoryId ← stringAt item "repository_id"
  let provider ← stringAt item "provider"
  let providerRepositoryId ← stringAt item "provider_repository_id"
  let canonicalLocatorHash ← stringAt item "canonical_locator_hash"
  let displayName ← stringAt item "display_name"
  let legacyAliases ← stringsAt item "legacy_aliases"
  requiredIdentifier repositoryId (lit "repository_id")
  let provider ← named repositoryProviders RepositoryProvider.text provider
    (lit "provider must be a supported repository provider")
  let r : CanonicalRepository :=
    ⟨repositoryId, provider, providerRepositoryId, canonicalLocatorHash, displayName, legacyAliases⟩
  r.check
  return r

def tenantNames : List Str := [lit "tenant_id", lit "display_name", lit "legacy_aliases"]

def parseTenant (value : Json) : Except GateError TenantIdentity := do
  let item ← object "tenant" tenantNames value
  let tenantId ← stringAt item "tenant_id"
  let displayName ← stringAt item "display_name"
  let legacyAliases ← stringsAt item "legacy_aliases"
  let t : TenantIdentity := ⟨tenantId, displayName, legacyAliases⟩
  t.check
  return t

def traceBindingNames : List Str := [lit "trace_id", lit "repository_id", lit "tenant_id"]

def parseTraceBinding (value : Json) : Except GateError TraceIdentityBinding := do
  let item ← object "trace binding" traceBindingNames value
  let traceId ← stringAt item "trace_id"
  let repositoryId ← stringAt item "repository_id"
  let tenantId ← stringAt item "tenant_id"
  let b : TraceIdentityBinding := ⟨traceId, repositoryId, tenantId⟩
  b.check
  return b

def memoryScopeNames : List Str := [lit "memory_kind", lit "memory_id", lit "scope"]

def scopeNames : List Str := [lit "kind", lit "tenant_id", lit "repository_id", lit "attributes"]

def parseAttributes (value : Json) : Except GateError (List (Str × Str)) :=
  match value with
  | .obj fields =>
    collect (fun f : Str × Json => do
      unicode f.1 (lit "attribute name")
      let text ← string f.2 (lit "attribute " ++ f.1)
      return (f.1, text)) (orderBy Prod.fst fields)
  | _ => .error (invalid (lit "authorization scope attributes must be an object"))

def parseMemoryScope (value : Json) : Except GateError MemoryScopeBinding := do
  let item ← object "memory scope binding" memoryScopeNames value
  let scope ← object "authorization scope" scopeNames (valueAt item (lit "scope"))
  let attributes ← parseAttributes (valueAt scope (lit "attributes"))
  let memoryKind ← stringAt item "memory_kind"
  let memoryId ← stringAt item "memory_id"
  let kind ← string (valueAt scope (lit "kind")) (lit "scope kind")
  let tenantId ← nullableAt scope "tenant_id"
  let repositoryId ← nullableAt scope "repository_id"
  let kind ← named scopeKinds ScopeKind.text kind (lit "scope kind must be global, tenant, or repository")
  let s : AuthorizationScope := ⟨kind, tenantId, repositoryId, attributes⟩
  s.check
  let memoryKind ← named memoryScopeKinds MemoryScopeKind.text memoryKind
    (lit "memory_kind must be lesson or project_policy")
  let b : MemoryScopeBinding := ⟨memoryKind, memoryId, s⟩
  b.check
  return b

def commitRelationNames : List Str :=
  [lit "from_commit_sha", lit "to_commit_sha", lit "relation", lit "verified_by", lit "verified_at"]

def parseCommitRelation (label : String) (value : Json) : Except GateError CommitRelationEvidence := do
  let item ← object label commitRelationNames value
  let fromCommitSha ← stringAt item "from_commit_sha"
  let toCommitSha ← stringAt item "to_commit_sha"
  let relation ← stringAt item "relation"
  let verifiedBy ← stringAt item "verified_by"
  let verifiedAt ← stringAt item "verified_at"
  requiredMetadata fromCommitSha (lit "from_commit_sha")
  requiredMetadata toCommitSha (lit "to_commit_sha")
  let relation ← named commitRelations CommitRelation.text relation (lit "commit relation must be ancestor")
  let e : CommitRelationEvidence := ⟨fromCommitSha, toCommitSha, relation, verifiedBy, verifiedAt⟩
  e.check
  return e

def evidenceNames : List Str :=
  [lit "evidence_id", lit "case_id", lit "regression_trace_id", lit "regression_run_id", lit "evaluator_id",
    lit "evaluator_version", lit "eval_suite", lit "eval_case_id", lit "evaluated_commit_sha", lit "result",
    lit "observed_at", lit "source_to_fix", lit "fix_to_regression", lit "artifact_hashes"]

def parseRegressionEvidence (value : Json) : Except GateError RegressionEvidence := do
  let item ← object "regression evidence" evidenceNames value
  let evidenceId ← stringAt item "evidence_id"
  let caseId ← stringAt item "case_id"
  let regressionTraceId ← stringAt item "regression_trace_id"
  let regressionRunId ← stringAt item "regression_run_id"
  let evaluatorId ← stringAt item "evaluator_id"
  let evaluatorVersion ← stringAt item "evaluator_version"
  let evalSuite ← stringAt item "eval_suite"
  let evalCaseId ← stringAt item "eval_case_id"
  let evaluatedCommitSha ← stringAt item "evaluated_commit_sha"
  let result ← stringAt item "result"
  let observedAt ← stringAt item "observed_at"
  let sourceToFix ← parseCommitRelation "source_to_fix" (valueAt item (lit "source_to_fix"))
  let fixToRegression ← parseCommitRelation "fix_to_regression" (valueAt item (lit "fix_to_regression"))
  let artifactHashes ← stringsAt item "artifact_hashes"
  -- the identifiers and the metadata are checked before the result
  checkEach (fun f => requiredIdentifier f.1 f.2)
    [(evidenceId, lit "evidence_id"), (caseId, lit "case_id"), (regressionTraceId, lit "regression_trace_id"),
      (regressionRunId, lit "regression_run_id"), (evaluatorId, lit "evaluator_id")]
  checkEach (fun f => requiredMetadata f.1 f.2)
    [(evaluatorVersion, lit "evaluator_version"), (evalSuite, lit "eval_suite"),
      (evalCaseId, lit "eval_case_id"), (evaluatedCommitSha, lit "evaluated_commit_sha")]
  let result ← named measuredResults MeasuredResult.text result
    (lit "regression result must be pass, fail, or error")
  let e : RegressionEvidence :=
    ⟨evidenceId, caseId, regressionTraceId, regressionRunId, evaluatorId, evaluatorVersion, evalSuite,
      evalCaseId, evaluatedCommitSha, result, observedAt, sourceToFix, fixToRegression, artifactHashes⟩
  e.check
  return e

def approvalNames : List Str :=
  [lit "policy_id", lit "principal_id", lit "authorization_event_id", lit "approved_at", lit "reason"]

def parseGlobalPolicyApproval (value : Json) : Except GateError GlobalPolicyApproval := do
  let item ← object "global policy approval" approvalNames value
  let policyId ← stringAt item "policy_id"
  let principalId ← stringAt item "principal_id"
  let authorizationEventId ← stringAt item "authorization_event_id"
  let approvedAt ← stringAt item "approved_at"
  let reason ← stringAt item "reason"
  let a : GlobalPolicyApproval := ⟨policyId, principalId, authorizationEventId, approvedAt, reason⟩
  a.check
  return a

def ancestryNames : List Str := [lit "mode", lit "bypass_reason"]

def parseAncestryPolicy (value : Json) : Except GateError AncestryPolicy := do
  let item ← object "ancestry policy" ancestryNames value
  let mode ← stringAt item "mode"
  let bypassReason ← nullableAt item "bypass_reason"
  let mode ← named ancestryModes AncestryMode.text mode (lit "ancestry mode must be required or disabled")
  let p : AncestryPolicy := ⟨mode, bypassReason⟩
  p.check
  return p

def mappingNames : List Str :=
  [lit "mapping_version", lit "repositories", lit "tenants", lit "trace_bindings", lit "memory_scopes",
    lit "regression_evidence", lit "global_policy_approvals", lit "ancestry_policy"]

def parseV3MigrationMapping (value : Json) : Except GateError SnapshotV3MigrationMapping := do
  let root ← object "v3 migration mapping" mappingNames value
  let version ← stringAt root "mapping_version"
  let repositories ← recordsAt parseRepository root "repositories"
  let tenants ← recordsAt parseTenant root "tenants"
  let traceBindings ← recordsAt parseTraceBinding root "trace_bindings"
  let memoryScopes ← recordsAt parseMemoryScope root "memory_scopes"
  let regressionEvidence ← recordsAt parseRegressionEvidence root "regression_evidence"
  let globalPolicyApprovals ← recordsAt parseGlobalPolicyApproval root "global_policy_approvals"
  let ancestryPolicy ← parseAncestryPolicy (valueAt root (lit "ancestry_policy"))
  raiseIf (version ≠ mappingVersion) (invalid (lit "mapping_version must be " ++ mappingVersion))
  let m : SnapshotV3MigrationMapping :=
    ⟨repositories, tenants, traceBindings, memoryScopes, regressionEvidence, globalPolicyApprovals,
      ancestryPolicy⟩
  m.check
  return m

def issueNames : List Str :=
  [lit "code", lit "severity", lit "record_kind", lit "record_id", lit "message"]

def parseMigrationIssue (value : Json) : Except GateError V3MigrationIssue := do
  let item ← object "v3 migration issue" issueNames value
  let code ← stringAt item "code"
  let severity ← stringAt item "severity"
  let recordKind ← stringAt item "record_kind"
  let recordId ← stringAt item "record_id"
  let message ← stringAt item "message"
  requiredIdentifier code (lit "code")
  let severity ← named issueSeverities MigrationIssueSeverity.text severity
    (lit "migration issue severity must be error or warning")
  let i : V3MigrationIssue := ⟨code, severity, recordKind, recordId, message⟩
  i.check
  return i

def planNames : List Str :=
  [lit "plan_version", lit "source_snapshot_version", lit "target_snapshot_version",
    lit "source_snapshot_sha256", lit "mapping_sha256", lit "ready", lit "counts", lit "issues"]

def parseCounts (value : Json) : Except GateError Fields :=
  match value with
  | .obj fields => do
    missingField (lit "v3 migration plan counts") (fields.map Prod.fst) planCountNames
    unknownField (lit "v3 migration plan counts") (fields.map Prod.fst) planCountNames
    return fields
  | _ => .error (invalid (lit "v3 migration plan counts must be an object"))

def parseV3MigrationPlan (value : Json) : Except GateError SnapshotV3MigrationPlan := do
  let root ← object "v3 migration plan" planNames value
  let data ← parseCounts (valueAt root (lit "counts"))
  let issues ← recordsAt parseMigrationIssue root "issues"
  let version ← stringAt root "plan_version"
  let source ← integer (valueAt root (lit "source_snapshot_version")) (lit "source_snapshot_version")
  let target ← integer (valueAt root (lit "target_snapshot_version")) (lit "target_snapshot_version")
  let sourceSnapshotSha256 ← stringAt root "source_snapshot_sha256"
  let mappingSha256 ← stringAt root "mapping_sha256"
  let ready ← boolean (valueAt root (lit "ready")) (lit "ready")
  let counts ← collect (fun name => do
    let count ← integer (valueAt data name) (lit "count " ++ name)
    return (name, count)) planCountNames
  raiseIf (version ≠ planVersion) (invalid (lit "plan_version must be " ++ planVersion))
  raiseIf (source ≠ 2) (invalid (lit "source_snapshot_version must be 2"))
  raiseIf (target ≠ 3) (invalid (lit "target_snapshot_version must be 3"))
  let p : SnapshotV3MigrationPlan := ⟨sourceSnapshotSha256, mappingSha256, ready, counts, issues⟩
  p.check
  return p

end Parsing

end Migration

end TraceBackedMemory
