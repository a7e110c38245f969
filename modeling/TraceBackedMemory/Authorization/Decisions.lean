import TraceBackedMemory.Authorization.Contracts

namespace TraceBackedMemory

open Text Raising OrderBy Json

namespace Authorization

open EventContract (TextHash)

open Migration (CanonicalRepository keyed jsonStrings nullable sortedStrings objects canonicalSha256)

section Documents

def PrincipalIdentity.entries (p : PrincipalIdentity) : Fields :=
  [(lit "principal_id", .str p.principalId), (lit "issuer", .str p.issuer),
    (lit "subject_hash", .str p.subjectHash), (lit "tenant_id", nullable p.tenantId),
    (lit "status", .str p.status.text)]

def AgentClientIdentity.entries (c : AgentClientIdentity) : Fields :=
  [(lit "agent_client_id", .str c.agentClientId), (lit "tenant_id", nullable c.tenantId),
    (lit "client_kind", .str c.clientKind.text), (lit "status", .str c.status.text)]

def RepositoryTenantBinding.entries (b : RepositoryTenantBinding) : Fields :=
  [(lit "repository_id", .str b.repositoryId), (lit "tenant_id", .str b.tenantId)]

def RepositoryAlias.entries (a : RepositoryAlias) : Fields :=
  [(lit "alias", .str a.aliasName), (lit "repository_id", .str a.repositoryId), (lit "tenant_id", .str a.tenantId),
    (lit "source", .str a.source)]

def sortedPermissions (l : List AuthorizationPermission) : List AuthorizationPermission :=
  orderBy AuthorizationPermission.text l

def RoleBinding.entriesAt (b : RoleBinding) (validFrom : Str) (expiresAt : Option Str) : Fields :=
  [(lit "binding_id", .str b.bindingId), (lit "principal_id", .str b.principalId),
    (lit "agent_client_id", .str b.agentClientId), (lit "role_name", .str b.roleName),
    (lit "scope", .obj b.scope.entries),
    (lit "permissions", jsonStrings ((sortedPermissions b.permissions).map AuthorizationPermission.text)),
    (lit "status", .str b.status.text), (lit "valid_from", .str validFrom), (lit "expires_at", nullable expiresAt)]

def RoleBinding.toDict (b : RoleBinding) : Except GateError Json := do
  let validFrom ← canonicalRfc3339 b.validFrom
  let expiresAt ← optionalCanonical b.expiresAt
  return .obj (b.entriesAt validFrom expiresAt)

def authorizationPolicyVersion : Str := lit "tbm.authorization-policy.v3"

def aliasOrder (a : RepositoryAlias) : Str ×ₗ Str := toLex (a.tenantId, a.aliasName)

namespace AuthorizationPolicyBundle

variable (p : AuthorizationPolicyBundle)

def entriesWith (bindings : List Json) : Fields :=
  [(lit "contract_version", .str authorizationPolicyVersion), (lit "policy_version", .str p.policyVersion),
    (lit "principals", objects PrincipalIdentity.entries (orderBy PrincipalIdentity.principalId p.principals)),
    (lit "agent_clients",
      objects AgentClientIdentity.entries (orderBy AgentClientIdentity.agentClientId p.agentClients)),
    (lit "repositories",
      objects CanonicalRepository.entries (orderBy CanonicalRepository.repositoryId p.repositories)),
    (lit "repository_tenants",
      objects RepositoryTenantBinding.entries (orderBy RepositoryTenantBinding.repositoryId p.repositoryTenants)),
    (lit "repository_aliases", objects RepositoryAlias.entries (orderBy aliasOrder p.repositoryAliases)),
    (lit "role_bindings", .arr bindings)]

def toDict : Except GateError Json := do
  let bindings ← collect RoleBinding.toDict (orderBy RoleBinding.bindingId p.roleBindings)
  return .obj (p.entriesWith bindings)

end AuthorizationPolicyBundle

end Documents

section Requests

structure AuthorizationRequest where
  requestId : Str
  principalId : Str
  agentClientId : Str
  tenantId : Option Str
  repositoryReference : Option Str
  permission : AuthorizationPermission
  requestedAt : Str
  deriving DecidableEq

namespace AuthorizationRequest

variable (r : AuthorizationRequest)

def checkTarget : Except GateError Unit :=
  if r.permission ∈ repositoryPermissions then
    raiseIf (r.tenantId = none ∨ r.repositoryReference = none)
      (invalid (lit "repository permission requires tenant and repository"))
  else if r.permission ∈ tenantOrRepositoryPermissions then
    raiseIf (r.tenantId = none) (invalid (lit "tenant or repository permission requires tenant_id"))
  else if r.permission ∈ tenantPermissions then
    raiseIf (r.tenantId = none ∨ r.repositoryReference ≠ none)
      (invalid (lit "tenant permission requires only tenant_id"))
  else
    raiseIf (r.tenantId ≠ none ∨ r.repositoryReference ≠ none)
      (invalid (lit "global permission forbids tenant and repository"))

def check : Except GateError Unit := do
  identifier r.requestId (lit "request_id")
  identifier r.principalId (lit "principal_id")
  identifier r.agentClientId (lit "agent_client_id")
  optionalIdentifier r.tenantId (lit "tenant_id")
  optionalMetadata r.repositoryReference (lit "repository_reference")
  let _ ← timestamp r.requestedAt (lit "requested_at")
  r.checkTarget

def toDict : Except GateError Json := do
  let requestedAt ← canonicalRfc3339 r.requestedAt
  return .obj
    [(lit "request_id", .str r.requestId), (lit "principal_id", .str r.principalId),
      (lit "agent_client_id", .str r.agentClientId), (lit "tenant_id", nullable r.tenantId),
      (lit "repository_reference", nullable r.repositoryReference), (lit "permission", .str r.permission.text),
      (lit "requested_at", .str requestedAt)]

end AuthorizationRequest

end Requests

section Decisions

structure AuthorizationDecision where
  authorizationEventId : Str
  requestId : Str
  requestSha256 : Str
  policySha256 : Str
  principalId : Str
  agentClientId : Str
  tenantId : Option Str
  repositoryId : Option Str
  permission : AuthorizationPermission
  allowed : Bool
  reason : AuthorizationReason
  matchedBindingIds : List Str
  decidedAt : Str
  deriving DecidableEq

def authorizationDecisionVersion : Str := lit "tbm.authorization-decision.v3"

variable (hash : TextHash) (codec : FloatCodec)

def authorizationEventId (content : Json) : Except GateError Str := do
  let digest ← canonicalSha256 hash codec content
  return lit "authz_sha256_" ++ digest.drop 7

namespace AuthorizationDecision

variable (d : AuthorizationDecision)

def content : Except GateError Json := do
  let decidedAt ← canonicalRfc3339 d.decidedAt
  return .obj
    [(lit "contract_version", .str authorizationDecisionVersion), (lit "request_id", .str d.requestId),
      (lit "request_sha256", .str d.requestSha256), (lit "policy_sha256", .str d.policySha256),
      (lit "principal_id", .str d.principalId), (lit "agent_client_id", .str d.agentClientId),
      (lit "tenant_id", nullable d.tenantId), (lit "repository_id", nullable d.repositoryId),
      (lit "permission", .str d.permission.text), (lit "allowed", .bool d.allowed), (lit "reason", .str d.reason.text),
      (lit "matched_binding_ids", jsonStrings (sortedStrings d.matchedBindingIds)), (lit "decided_at", .str decidedAt)]

def check : Except GateError Unit := do
  identifier d.requestId (lit "request_id")
  digest d.requestSha256 (lit "request_sha256")
  digest d.policySha256 (lit "policy_sha256")
  identifier d.principalId (lit "principal_id")
  identifier d.agentClientId (lit "agent_client_id")
  optionalIdentifier d.tenantId (lit "tenant_id")
  optionalIdentifier d.repositoryId (lit "repository_id")
  identifierTuple d.matchedBindingIds (lit "matched_binding_ids")
  raiseIf (d.matchedBindingIds ≠ sortedStrings d.matchedBindingIds) (invalid (lit "matched_binding_ids must be sorted"))
  raiseIf (d.allowed ≠ decide (d.reason = .allowed)) (invalid (lit "allowed and reason disagree"))
  raiseIf (d.allowed ≠ decide (d.matchedBindingIds ≠ [])) (invalid (lit "allowed decision requires matched bindings"))
  let _ ← timestamp d.decidedAt (lit "decided_at")
  let content ← d.content
  let expected ← Authorization.authorizationEventId hash codec content
  raiseIf (d.authorizationEventId ≠ expected) (invalid (lit "authorization_event_id does not match decision content"))

end AuthorizationDecision

-- what the evaluation finds: the resolved repository, the reason, and the bindings that match
structure Finding where
  repositoryId : Option Str
  reason : AuthorizationReason
  matched : List Str
  deriving DecidableEq

variable (p : AuthorizationPolicyBundle) (r : AuthorizationRequest) (decidedAt : Str)

def AuthorizationPolicyBundle.sha256 : Except GateError Str := do
  let document ← p.toDict
  canonicalSha256 hash codec document

def decision (f : Finding) : Except GateError AuthorizationDecision := do
  let request ← r.toDict
  let requestSha256 ← canonicalSha256 hash codec request
  let policySha256 ← p.sha256 hash codec
  let unnamed : AuthorizationDecision :=
    { authorizationEventId := [], requestId := r.requestId, requestSha256 := requestSha256,
      policySha256 := policySha256, principalId := r.principalId, agentClientId := r.agentClientId,
      tenantId := r.tenantId, repositoryId := f.repositoryId, permission := r.permission,
      allowed := decide (f.reason = .allowed), reason := f.reason, matchedBindingIds := f.matched,
      decidedAt := decidedAt }
  let content ← unnamed.content
  let eventId ← authorizationEventId hash codec content
  let d : AuthorizationDecision := { unnamed with authorizationEventId := eventId }
  d.check hash codec
  return d

end Decisions

section Evaluation

def resolveRepository (p : AuthorizationPolicyBundle) (r : AuthorizationRequest) : Option Str :=
  match p.repositoryTenants.find? (fun t => decide (some t.tenantId = r.tenantId ∧
      some t.repositoryId = r.repositoryReference)) with
  | some t => some t.repositoryId
  | none =>
    (p.repositoryAliases.find? (fun a => decide (some a.tenantId = r.tenantId ∧
      some a.aliasName = r.repositoryReference))).map RepositoryAlias.repositoryId

-- the times of a checked binding always parse
def RoleBinding.inWindow (b : RoleBinding) (decided : Int) : Bool :=
  (instant? b.validFrom).any (fun starts => decide (starts ≤ decided)) &&
    b.expiresAt.all (fun expiry => (instant? expiry).any (fun ends => decide (decided < ends)))

def RoleBinding.covers (b : RoleBinding) (r : AuthorizationRequest) (repositoryId : Option Str) : Bool :=
  match b.scope.kind with
  | .global => true
  | .tenant => decide (b.scope.tenantId = r.tenantId)
  | .repository => decide (b.scope.tenantId = r.tenantId ∧ b.scope.repositoryId = repositoryId)

def RoleBinding.authorizes (b : RoleBinding) (r : AuthorizationRequest) (repositoryId : Option Str) (decided : Int) :
    Bool :=
  decide (b.status = .active ∧ b.principalId = r.principalId ∧ b.agentClientId = r.agentClientId) &&
    b.inWindow decided && decide (r.permission ∈ b.permissions ∨ adminPermission ∈ b.permissions) &&
      b.covers r repositoryId

def matchedBindings (p : AuthorizationPolicyBundle) (r : AuthorizationRequest) (repositoryId : Option Str)
    (decided : Int) : List Str :=
  sortedStrings ((p.roleBindings.filter (fun b => b.authorizes r repositoryId decided)).map RoleBinding.bindingId)

def bindingFinding (p : AuthorizationPolicyBundle) (r : AuthorizationRequest) (repositoryId : Option Str)
    (decided : Int) : Finding :=
  let matched := matchedBindings p r repositoryId decided
  ⟨repositoryId, if matched = [] then .noMatchingBinding else .allowed, matched⟩

def targetFinding (p : AuthorizationPolicyBundle) (r : AuthorizationRequest) (decided : Int) : Finding :=
  match r.repositoryReference with
  | none => bindingFinding p r none decided
  | some _ =>
    match resolveRepository p r with
    | none => ⟨none, .unknownRepository, []⟩
    | some repositoryId =>
      if (p.target? repositoryId).map RepositoryTenantBinding.tenantId ≠ r.tenantId then
        ⟨some repositoryId, .repositoryTenantMismatch, []⟩
      else bindingFinding p r (some repositoryId) decided

-- an identity bound to a tenant acts for no other tenant, and for no request without one
def tenantMismatch (bound requested : Option Str) : Bool := decide (bound ≠ none ∧ bound ≠ requested)

def refusal (principal : Option PrincipalIdentity) (client : Option AgentClientIdentity) (tenantId : Option Str) :
    Option AuthorizationReason :=
  match principal with
  | none => some .unknownPrincipal
  | some principal =>
    if principal.status ≠ .active then some .principalDisabled
    else
      match client with
      | none => some .unknownAgentClient
      | some client =>
        if client.status ≠ .active then some .agentClientDisabled
        else if tenantMismatch principal.tenantId tenantId then some .principalTenantMismatch
        else if tenantMismatch client.tenantId tenantId then some .agentClientTenantMismatch
        else none

namespace AuthorizationPolicyBundle

variable (p : AuthorizationPolicyBundle)

def principal? : Str → Option PrincipalIdentity := keyed PrincipalIdentity.principalId p.principals

def client? : Str → Option AgentClientIdentity := keyed AgentClientIdentity.agentClientId p.agentClients

end AuthorizationPolicyBundle

def evaluate (p : AuthorizationPolicyBundle) (r : AuthorizationRequest) (decided : Int) : Finding :=
  match refusal (p.principal? r.principalId) (p.client? r.agentClientId) r.tenantId with
  | some reason => ⟨none, reason, []⟩
  | none => targetFinding p r decided

variable (hash : TextHash) (codec : FloatCodec)

def authorize (p : AuthorizationPolicyBundle) (r : AuthorizationRequest) (decidedAt : Str) :
    Except GateError AuthorizationDecision := do
  let decided ← timestamp decidedAt (lit "decided_at")
  let requested ← timestamp r.requestedAt (lit "requested_at")
  raiseIf (decided < requested) (invalid (lit "decided_at must not precede requested_at"))
  decision hash codec p r decidedAt (evaluate p r decided)

def decisionMismatch : GateError :=
  ⟨.contract, lit "TBM_AUTHORIZATION_DECISION_MISMATCH", lit "authorization decision does not match policy and request"⟩

def verifyAuthorizationDecision (p : AuthorizationPolicyBundle) (r : AuthorizationRequest) (d : AuthorizationDecision) :
    Except GateError Unit := do
  let expected ← authorize hash codec p r d.decidedAt
  raiseIf (expected ≠ d) decisionMismatch

end Evaluation

end Authorization

end TraceBackedMemory
