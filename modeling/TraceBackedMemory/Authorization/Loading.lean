import TraceBackedMemory.Authorization.Decisions
import TraceBackedMemory.Ledger.EventLoading

namespace TraceBackedMemory

open Text Raising OrderBy Json

namespace Authorization

open EventContract (TextHash JsonInput DocumentPolicy loadsDocument)

open Migration (AuthorizationScope CanonicalRepository ScopeKind RepositoryProvider repositoryNames scopeNames)

section Reading

def strictObject (label : String) (names : List Str) (fields : Fields) : Except GateError Fields := do
  match firstOutside names (fields.map Prod.fst) with
  | some name => .error (invalid (lit label ++ lit " has unknown field: " ++ name))
  | none =>
    match firstOutside (fields.map Prod.fst) names with
    | some name => .error (invalid (lit label ++ lit " is missing field: " ++ name))
    | none => .ok fields

def stringAt (fields : Fields) (name : String) : Except GateError Str :=
  match valueAt fields (lit name) with
  | .str s => .ok s
  | _ => .error (invalid (lit name ++ lit " must be a string"))

def optionalStringAt (fields : Fields) (name : String) : Except GateError (Option Str) :=
  match valueAt fields (lit name) with
  | .null => .ok none
  | .str s => .ok (some s)
  | _ => .error (invalid (lit name ++ lit " must be a string or null"))

def text? : Json → Option Str
  | .str s => some s
  | _ => none

def fields? : Json → Option Fields
  | .obj fields => some fields
  | _ => none

def stringTupleAt (fields : Fields) (name : String) : Except GateError (List Str) :=
  match valueAt fields (lit name) with
  | .arr items => demand (items.mapM text?) (invalid (lit name ++ lit " must be a string array"))
  | _ => .error (invalid (lit name ++ lit " must be a string array"))

def objectListAt (fields : Fields) (name : String) : Except GateError (List Fields) :=
  match valueAt fields (lit name) with
  | .arr items => do
    raiseIf (maxRegistryItems < items.length) (invalid (lit name ++ lit " must be a bounded object array"))
    demand (items.mapM fields?) (invalid (lit name ++ lit " must be a bounded object array"))
  | _ => .error (invalid (lit name ++ lit " must be a bounded object array"))

def recordsAt {α : Type} (parse : Fields → Except GateError α) (fields : Fields) (name : String) :
    Except GateError (List α) := do
  let items ← objectListAt fields name
  collect parse items

def member {α : Type} (values : List α) (text : α → Str) (s : Str) (message : String) : Except GateError α :=
  demand (values.find? (fun a => decide (text a = s))) (invalid (lit message))

end Reading

section Parsing

def principalNames : List Str :=
  [lit "principal_id", lit "issuer", lit "subject_hash", lit "tenant_id", lit "status"]

-- the constructor looks at the status after every other field
def parsePrincipal (fields : Fields) : Except GateError PrincipalIdentity := do
  let data ← strictObject "principal" principalNames fields
  let principalId ← stringAt data "principal_id"
  let issuer ← stringAt data "issuer"
  let subjectHash ← stringAt data "subject_hash"
  let tenantId ← optionalStringAt data "tenant_id"
  let status ← stringAt data "status"
  let principal : IdentityStatus → PrincipalIdentity := PrincipalIdentity.mk principalId issuer subjectHash tenantId
  (principal .active).check
  let status ← member identityStatuses IdentityStatus.text status "principal status must be active or disabled"
  return principal status

def clientNames : List Str := [lit "agent_client_id", lit "tenant_id", lit "client_kind", lit "status"]

def parseClient (fields : Fields) : Except GateError AgentClientIdentity := do
  let data ← strictObject "agent client" clientNames fields
  let agentClientId ← stringAt data "agent_client_id"
  let tenantId ← optionalStringAt data "tenant_id"
  let clientKind ← stringAt data "client_kind"
  let status ← stringAt data "status"
  let client : AgentClientKind → IdentityStatus → AgentClientIdentity := AgentClientIdentity.mk agentClientId tenantId
  (client .localAgent .active).check
  let clientKind ← member agentClientKinds AgentClientKind.text clientKind
    "client_kind must be a supported agent client kind"
  let status ← member identityStatuses IdentityStatus.text status "agent client status must be active or disabled"
  return client clientKind status

def parseRepository (fields : Fields) : Except GateError CanonicalRepository := do
  let data ← strictObject "repository" repositoryNames fields
  let repositoryId ← stringAt data "repository_id"
  let provider ← stringAt data "provider"
  let providerRepositoryId ← stringAt data "provider_repository_id"
  let canonicalLocatorHash ← stringAt data "canonical_locator_hash"
  let displayName ← stringAt data "display_name"
  let legacyAliases ← stringTupleAt data "legacy_aliases"
  Migration.requiredIdentifier repositoryId (lit "repository_id")
  let provider ← Migration.named Migration.repositoryProviders RepositoryProvider.text provider
    (lit "provider must be a supported repository provider")
  let r : CanonicalRepository :=
    ⟨repositoryId, provider, providerRepositoryId, canonicalLocatorHash, displayName, legacyAliases⟩
  r.check
  return r

def repositoryTenantNames : List Str := [lit "repository_id", lit "tenant_id"]

def parseRepositoryTenant (fields : Fields) : Except GateError RepositoryTenantBinding := do
  let data ← strictObject "repository tenant" repositoryTenantNames fields
  let repositoryId ← stringAt data "repository_id"
  let tenantId ← stringAt data "tenant_id"
  let b : RepositoryTenantBinding := ⟨repositoryId, tenantId⟩
  b.check
  return b

def aliasNames : List Str := [lit "alias", lit "repository_id", lit "tenant_id", lit "source"]

def parseAlias (fields : Fields) : Except GateError RepositoryAlias := do
  let data ← strictObject "repository alias" aliasNames fields
  let aliasName ← stringAt data "alias"
  let repositoryId ← stringAt data "repository_id"
  let tenantId ← stringAt data "tenant_id"
  let source ← stringAt data "source"
  let a : RepositoryAlias := ⟨aliasName, repositoryId, tenantId, source⟩
  a.check
  return a

def attribute? (field : Str × Json) : Option (Str × Str) := (text? field.2).map (fun value => (field.1, value))

def parseAttributes : Json → Except GateError (List (Str × Str))
  | .obj fields => do
    let attributes ← demand (fields.mapM attribute?) (invalid (lit "scope attributes must be a string mapping"))
    return orderBy Prod.fst attributes
  | _ => .error (invalid (lit "scope attributes must be a string mapping"))

def parseScope : Json → Except GateError AuthorizationScope
  | .obj fields => do
    let data ← strictObject "scope" scopeNames fields
    let attributes ← parseAttributes (valueAt data (lit "attributes"))
    let kind ← stringAt data "kind"
    let tenantId ← optionalStringAt data "tenant_id"
    let repositoryId ← optionalStringAt data "repository_id"
    let kind ← Migration.named Migration.scopeKinds ScopeKind.text kind
      (lit "scope kind must be global, tenant, or repository")
    let s : AuthorizationScope := ⟨kind, tenantId, repositoryId, attributes⟩
    s.check
    return s
  | _ => .error (invalid (lit "scope must be a JSON object"))

def bindingNames : List Str :=
  [lit "binding_id", lit "principal_id", lit "agent_client_id", lit "role_name", lit "scope", lit "permissions",
    lit "status", lit "valid_from", lit "expires_at"]

def permission? (s : Str) : Option AuthorizationPermission :=
  authorizationPermissions.find? (fun p => decide (p.text = s))

def parseBinding (fields : Fields) : Except GateError RoleBinding := do
  let data ← strictObject "role binding" bindingNames fields
  let scope ← parseScope (valueAt data (lit "scope"))
  let bindingId ← stringAt data "binding_id"
  let principalId ← stringAt data "principal_id"
  let agentClientId ← stringAt data "agent_client_id"
  let roleName ← stringAt data "role_name"
  let permissions ← stringTupleAt data "permissions"
  let status ← stringAt data "status"
  let validFrom ← stringAt data "valid_from"
  let expiresAt ← optionalStringAt data "expires_at"
  identifier bindingId (lit "binding_id")
  identifier principalId (lit "principal_id")
  identifier agentClientId (lit "agent_client_id")
  metadata roleName (lit "role_name")
  let permissions ← demand (permissions.mapM permission?) (invalid (lit "permissions must be a unique supported tuple"))
  checkPermissions permissions
  let status ← member bindingStatuses BindingStatus.text status "binding status must be active or revoked"
  let b : RoleBinding :=
    ⟨bindingId, principalId, agentClientId, roleName, scope, permissions, status, validFrom, expiresAt⟩
  b.check
  return b

def policyNames : List Str :=
  [lit "contract_version", lit "policy_version", lit "principals", lit "agent_clients", lit "repositories",
    lit "repository_tenants", lit "repository_aliases", lit "role_bindings"]

def parseAuthorizationPolicy (fields : Fields) : Except GateError AuthorizationPolicyBundle := do
  let data ← strictObject "authorization policy" policyNames fields
  let contractVersion ← stringAt data "contract_version"
  let policyVersion ← stringAt data "policy_version"
  let principals ← recordsAt parsePrincipal data "principals"
  let agentClients ← recordsAt parseClient data "agent_clients"
  let repositories ← recordsAt parseRepository data "repositories"
  let repositoryTenants ← recordsAt parseRepositoryTenant data "repository_tenants"
  let repositoryAliases ← recordsAt parseAlias data "repository_aliases"
  let roleBindings ← recordsAt parseBinding data "role_bindings"
  raiseIf (contractVersion ≠ authorizationPolicyVersion)
    (invalid (lit "contract_version must be " ++ authorizationPolicyVersion))
  let p : AuthorizationPolicyBundle :=
    ⟨policyVersion, principals, agentClients, repositories, repositoryTenants, repositoryAliases, roleBindings⟩
  p.check
  return p

end Parsing

section Texts

variable (codec : FloatCodec)

def authorizationDocument (label : String) : DocumentPolicy where
  maxBytes := 1024 * 1024
  bounds := ⟨25000, 32⟩
  description := lit label
  contractCode := lit "TBM_AUTHORIZATION_INVALID_JSON"

def loadsJson (label : String) (source : JsonInput) : Except GateError Fields := do
  let document ← (loadsDocument codec (authorizationDocument label) source).mapError (fun _ =>
    ⟨.contract, lit "TBM_AUTHORIZATION_INVALID_JSON", lit label ++ lit " must be bounded strict JSON"⟩)
  demand (fields? document) (invalid (lit label ++ lit " must be a JSON object"))

def loadsAuthorizationPolicy (source : JsonInput) : Except GateError AuthorizationPolicyBundle := do
  let fields ← loadsJson codec "authorization policy" source
  parseAuthorizationPolicy fields

def dumpsAuthorizationPolicy (p : AuthorizationPolicyBundle) : Except GateError Str := do
  let document ← p.toDict
  return canonicalText codec.repr document

end Texts

end Authorization

end TraceBackedMemory
