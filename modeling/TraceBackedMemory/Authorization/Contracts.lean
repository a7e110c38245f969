import TraceBackedMemory.Migration.Planner

namespace TraceBackedMemory

open Text Raising OrderBy Json

namespace Authorization

open Migration (AuthorizationScope CanonicalRepository ScopeKind keyed)

section Checks

def maxRegistryItems : Nat := 10000

def maxBindingPermissions : Nat := 32

def invalid (message : Str) : GateError :=
  ⟨.contract, lit "TBM_AUTHORIZATION_INVALID", message.take memoryDecisionReasonMaxChars⟩

def unicode (value name : Str) : Except GateError Unit :=
  raiseIf (utf8 value = false) (invalid (name ++ lit " must be valid UTF-8"))

def identifier (value name : Str) : Except GateError Unit := do
  raiseIf (isBlank value = true ∨ memoryIdMaxChars < value.length)
    (invalid (name ++ lit " must be a non-empty bounded identifier"))
  unicode value name

def optionalIdentifier (value : Option Str) (name : Str) : Except GateError Unit :=
  value.elim (.ok ()) (fun v => identifier v name)

def metadata (value name : Str) : Except GateError Unit := do
  raiseIf (isBlank value = true ∨ metadataValueMaxChars < value.length)
    (invalid (name ++ lit " must be non-empty bounded metadata"))
  unicode value name

def optionalMetadata (value : Option Str) (name : Str) : Except GateError Unit :=
  value.elim (.ok ()) (fun v => metadata v name)

def digest (value name : Str) : Except GateError Unit :=
  raiseIf (validDigest value = false) (invalid (name ++ lit " must be a sha256 digest"))

-- an offset is at most fourteen hours and its minutes are minutes
def boundedOffset (value : Str) : Bool :=
  let zone := value.drop (value.length - 6)
  decide (value.getLast? = some (cp 'Z')) ||
    decide ((asciiNumber? ((zone.drop 1).take 2)).getD 15 ≤ 14 ∧ (asciiNumber? ((zone.drop 4).take 2)).getD 60 ≤ 59)

def timestamp (value name : Str) : Except GateError Int :=
  demand (if boundedOffset value then instant? value else none)
    (invalid (name ++ lit " must be a timezone-aware RFC 3339 date-time"))

def identifierTuple (values : List Str) (name : Str) : Except GateError Unit := do
  raiseIf (maxRegistryItems < values.length ∨ ¬values.Nodup) (invalid (name ++ lit " must be a unique bounded tuple"))
  checkEach (fun v => identifier v name) values

def recordTuple {α : Type} (values : List α) (name : String) : Except GateError Unit :=
  raiseIf (maxRegistryItems < values.length) (invalid (lit name ++ lit " must be a bounded exact-record tuple"))

def uniqueBy {α : Type} (key : α → Str) (values : List α) (label : String) : Except GateError Unit :=
  raiseIf (¬(values.map key).Nodup) (invalid (lit label ++ lit " values must be unique"))

end Checks

section Vocabulary

inductive IdentityStatus where
  | active | disabled
  deriving DecidableEq

def IdentityStatus.text : IdentityStatus → Str
  | .active => lit "active"
  | .disabled => lit "disabled"

def identityStatuses : List IdentityStatus := [.active, .disabled]

inductive BindingStatus where
  | active | revoked
  deriving DecidableEq

def BindingStatus.text : BindingStatus → Str
  | .active => lit "active"
  | .revoked => lit "revoked"

def bindingStatuses : List BindingStatus := [.active, .revoked]

inductive AgentClientKind where
  | localAgent | service | sdk | mcp | worker
  deriving DecidableEq

def AgentClientKind.text : AgentClientKind → Str
  | .localAgent => lit "local_agent"
  | .service => lit "service"
  | .sdk => lit "sdk"
  | .mcp => lit "mcp"
  | .worker => lit "worker"

def agentClientKinds : List AgentClientKind := [.localAgent, .service, .sdk, .mcp, .worker]

inductive AuthorizationPermission where
  | memoryRetrieve | memoryInject | memoryCreate | memoryReview | memoryVerify | memoryActivate
  | gateSessionCreate | gateSessionTransition | artifactRead | artifactWrite
  | tenantAuditRead | policyCreateGlobal | policyApproveGlobal | platformAuditRead | platformAdmin
  deriving DecidableEq

def AuthorizationPermission.text : AuthorizationPermission → Str
  | .memoryRetrieve => lit "memory:retrieve"
  | .memoryInject => lit "memory:inject"
  | .memoryCreate => lit "memory:create"
  | .memoryReview => lit "memory:review"
  | .memoryVerify => lit "memory:verify"
  | .memoryActivate => lit "memory:activate"
  | .gateSessionCreate => lit "gate_session:create"
  | .gateSessionTransition => lit "gate_session:transition"
  | .artifactRead => lit "artifact:read"
  | .artifactWrite => lit "artifact:write"
  | .tenantAuditRead => lit "tenant:audit_read"
  | .policyCreateGlobal => lit "policy:create_global"
  | .policyApproveGlobal => lit "policy:approve_global"
  | .platformAuditRead => lit "platform:audit_read"
  | .platformAdmin => lit "platform:admin"

def repositoryPermissions : List AuthorizationPermission :=
  [.memoryRetrieve, .memoryInject, .memoryCreate, .memoryVerify, .gateSessionCreate, .gateSessionTransition,
    .artifactRead, .artifactWrite]

def tenantOrRepositoryPermissions : List AuthorizationPermission := [.memoryReview, .memoryActivate]

def tenantPermissions : List AuthorizationPermission := [.tenantAuditRead]

def globalPermissions : List AuthorizationPermission := [.policyCreateGlobal, .policyApproveGlobal, .platformAuditRead]

def adminPermission : AuthorizationPermission := .platformAdmin

def authorizationPermissions : List AuthorizationPermission :=
  repositoryPermissions ++ tenantOrRepositoryPermissions ++ tenantPermissions ++ globalPermissions ++ [adminPermission]

inductive AuthorizationReason where
  | allowed
  | unknownPrincipal | principalDisabled | principalTenantMismatch
  | unknownAgentClient | agentClientDisabled | agentClientTenantMismatch
  | unknownRepository | repositoryTenantMismatch
  | noMatchingBinding
  deriving DecidableEq

def AuthorizationReason.text : AuthorizationReason → Str
  | .allowed => lit "allowed"
  | .unknownPrincipal => lit "unknown_principal"
  | .principalDisabled => lit "principal_disabled"
  | .principalTenantMismatch => lit "principal_tenant_mismatch"
  | .unknownAgentClient => lit "unknown_agent_client"
  | .agentClientDisabled => lit "agent_client_disabled"
  | .agentClientTenantMismatch => lit "agent_client_tenant_mismatch"
  | .unknownRepository => lit "unknown_repository"
  | .repositoryTenantMismatch => lit "repository_tenant_mismatch"
  | .noMatchingBinding => lit "no_matching_binding"

end Vocabulary

section Records

structure PrincipalIdentity where
  principalId : Str
  issuer : Str
  subjectHash : Str
  tenantId : Option Str
  status : IdentityStatus
  deriving DecidableEq

def PrincipalIdentity.check (p : PrincipalIdentity) : Except GateError Unit := do
  identifier p.principalId (lit "principal_id")
  metadata p.issuer (lit "issuer")
  digest p.subjectHash (lit "subject_hash")
  optionalIdentifier p.tenantId (lit "tenant_id")

structure AgentClientIdentity where
  agentClientId : Str
  tenantId : Option Str
  clientKind : AgentClientKind
  status : IdentityStatus
  deriving DecidableEq

def AgentClientIdentity.check (c : AgentClientIdentity) : Except GateError Unit := do
  identifier c.agentClientId (lit "agent_client_id")
  optionalIdentifier c.tenantId (lit "tenant_id")

structure RepositoryTenantBinding where
  repositoryId : Str
  tenantId : Str
  deriving DecidableEq

def RepositoryTenantBinding.check (b : RepositoryTenantBinding) : Except GateError Unit := do
  identifier b.repositoryId (lit "repository_id")
  identifier b.tenantId (lit "tenant_id")

structure RepositoryAlias where
  aliasName : Str
  repositoryId : Str
  tenantId : Str
  source : Str
  deriving DecidableEq

def RepositoryAlias.check (a : RepositoryAlias) : Except GateError Unit := do
  metadata a.aliasName (lit "alias")
  identifier a.repositoryId (lit "repository_id")
  identifier a.tenantId (lit "tenant_id")
  metadata a.source (lit "source")

structure RoleBinding where
  bindingId : Str
  principalId : Str
  agentClientId : Str
  roleName : Str
  scope : AuthorizationScope
  permissions : List AuthorizationPermission
  status : BindingStatus
  validFrom : Str
  expiresAt : Option Str
  deriving DecidableEq

def checkWindow (validFrom : Str) (expiresAt : Option Str) : Except GateError Unit := do
  let starts ← timestamp validFrom (lit "valid_from")
  match expiresAt with
  | none => .ok ()
  | some expiry => do
    let ends ← timestamp expiry (lit "expires_at")
    raiseIf (ends ≤ starts) (invalid (lit "expires_at must be later than valid_from"))

def checkPermissions (permissions : List AuthorizationPermission) : Except GateError Unit :=
  raiseIf (permissions = [] ∨ maxBindingPermissions < permissions.length ∨ ¬permissions.Nodup)
    (invalid (lit "permissions must be a unique supported tuple"))

-- the scope is checked by its own constructor, before the binding exists
def RoleBinding.check (b : RoleBinding) : Except GateError Unit := do
  identifier b.bindingId (lit "binding_id")
  identifier b.principalId (lit "principal_id")
  identifier b.agentClientId (lit "agent_client_id")
  metadata b.roleName (lit "role_name")
  checkPermissions b.permissions
  checkWindow b.validFrom b.expiresAt
  raiseIf (b.scope.kind = .repository ∧ ∃ p ∈ b.permissions,
      p ∉ repositoryPermissions ++ tenantOrRepositoryPermissions ++ [adminPermission])
    (invalid (lit "repository binding contains a broader permission"))
  raiseIf (b.scope.kind = .tenant ∧ ∃ p ∈ b.permissions, p ∈ globalPermissions)
    (invalid (lit "tenant binding contains a global permission"))
  raiseIf (adminPermission ∈ b.permissions ∧ b.scope.kind ≠ .global)
    (invalid (lit "platform:admin requires global scope"))

end Records

section Policies

structure AuthorizationPolicyBundle where
  policyVersion : Str
  principals : List PrincipalIdentity
  agentClients : List AgentClientIdentity
  repositories : List CanonicalRepository
  repositoryTenants : List RepositoryTenantBinding
  repositoryAliases : List RepositoryAlias
  roleBindings : List RoleBinding
  deriving DecidableEq

namespace AuthorizationPolicyBundle

variable (p : AuthorizationPolicyBundle)

def checkEntries : Except GateError Unit := do
  checkEach PrincipalIdentity.check p.principals
  checkEach AgentClientIdentity.check p.agentClients
  checkEach CanonicalRepository.check p.repositories
  checkEach RepositoryTenantBinding.check p.repositoryTenants
  checkEach RepositoryAlias.check p.repositoryAliases
  checkEach (fun b : RoleBinding => b.scope.check) p.roleBindings
  checkEach RoleBinding.check p.roleBindings

def target? : Str → Option RepositoryTenantBinding := keyed RepositoryTenantBinding.repositoryId p.repositoryTenants

local instance lawfulBEqNames : LawfulBEq (Str × Str) := inferInstance

def checkAliases (seen : List (Str × Str)) : List RepositoryAlias → Except GateError Unit
  | [] => .ok ()
  | a :: aliases => do
    raiseIf ((a.tenantId, a.aliasName) ∈ seen ∨
        ∃ t ∈ p.repositoryTenants, t.tenantId = a.tenantId ∧ t.repositoryId = a.aliasName)
      (invalid (lit "repository aliases must be unambiguous"))
    raiseIf ((p.target? a.repositoryId).map RepositoryTenantBinding.tenantId ≠ some a.tenantId)
      (invalid (lit "repository alias target is unknown or cross-tenant"))
    checkAliases ((a.tenantId, a.aliasName) :: seen) aliases

def checkBinding (b : RoleBinding) : Except GateError Unit := do
  raiseIf (b.principalId ∉ p.principals.map PrincipalIdentity.principalId)
    (invalid (lit "role binding references an unknown principal"))
  raiseIf (b.agentClientId ∉ p.agentClients.map AgentClientIdentity.agentClientId)
    (invalid (lit "role binding references an unknown agent client"))
  raiseIf (b.scope.kind = .repository ∧
      (b.scope.repositoryId.bind p.target?).map RepositoryTenantBinding.tenantId ≠ b.scope.tenantId)
    (invalid (lit "repository role binding has an unknown target"))

def check : Except GateError Unit := do
  metadata p.policyVersion (lit "policy_version")
  recordTuple p.principals "principals"
  recordTuple p.agentClients "agent_clients"
  recordTuple p.repositories "repositories"
  recordTuple p.repositoryTenants "repository_tenants"
  recordTuple p.repositoryAliases "repository_aliases"
  recordTuple p.roleBindings "role_bindings"
  uniqueBy PrincipalIdentity.principalId p.principals "principal_id"
  uniqueBy AgentClientIdentity.agentClientId p.agentClients "agent_client_id"
  uniqueBy CanonicalRepository.repositoryId p.repositories "repository_id"
  raiseIf (∃ r ∈ p.repositories, maxRegistryItems < r.legacyAliases.length)
    (invalid (lit "repository legacy_aliases exceed authorization bound"))
  uniqueBy RepositoryTenantBinding.repositoryId p.repositoryTenants "repository tenant repository_id"
  uniqueBy RoleBinding.bindingId p.roleBindings "binding_id"
  raiseIf (¬((∀ r ∈ p.repositories, r.repositoryId ∈ p.repositoryTenants.map RepositoryTenantBinding.repositoryId) ∧
      ∀ t ∈ p.repositoryTenants, t.repositoryId ∈ p.repositories.map CanonicalRepository.repositoryId))
    (invalid (lit "every canonical repository requires one tenant binding"))
  p.checkAliases [] p.repositoryAliases
  checkEach p.checkBinding p.roleBindings

end AuthorizationPolicyBundle

-- a bundle that came out of its constructor, its records out of theirs
abbrev AuthorizationPolicy :=
  { p : AuthorizationPolicyBundle // p.checkEntries = .ok () ∧ p.check = .ok () }

end Policies

end Authorization

end TraceBackedMemory
