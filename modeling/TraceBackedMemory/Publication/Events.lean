import TraceBackedMemory.Publication.Revisions

namespace TraceBackedMemory

open Text Raising OrderBy Json Replay

namespace Publication

open EventContract (TextHash)

open Migration (AuthorizationScope nullable canonicalSha256)

open SemanticGate (taggedHex isRevisionId isAuthorizationId)

open Authorization (AuthorizationPolicyBundle AuthorizationRequest AuthorizationDecision AuthorizationPermission
  verifyAuthorizationDecision boundedOffset)

section Checks

def publicationInvalid (message : Str) : GateError := ⟨.contract, lit "TBM_MEMORY_PUBLICATION_INVALID", message⟩

def publicationMismatch (message : Str) : GateError := ⟨.contract, lit "TBM_MEMORY_PUBLICATION_MISMATCH", message⟩

def publicationIdentifier (value name : Str) : Except GateError Unit := do
  boundedText publicationInvalid memoryIdMaxChars "a non-empty bounded identifier" value name
  raiseIf (utf8 value = false) (publicationInvalid (name ++ lit " must be valid UTF-8"))

def publicationDigest (value name : Str) : Except GateError Unit :=
  raiseIf (validDigest value = false) (publicationInvalid (name ++ lit " must be a sha256 digest"))

def derivedForm (pattern : Str → Bool) (value : Option Str) (name : Str) : Except GateError Unit :=
  raiseIf (value.any pattern = false) (publicationInvalid (name ++ lit " has invalid content-derived form"))

def isApprovalId : Str → Bool := taggedHex "memory_approval_sha256_"

def isActivationId : Str → Bool := taggedHex "memory_activation_sha256_"

def publicationTime (value name : Str) : Except GateError CanonicalTime := do
  raiseIf (boundedOffset value = false ∨ instant? value = none)
    (publicationInvalid (name ++ lit " must be a timezone-aware RFC 3339 timestamp"))
  CanonicalTime.of value

def revisionLineageShape (revisionNumber : Nat) (previousRevisionId : Option Str) : Except GateError Unit := do
  raiseIf (revisionNumber < 1) (publicationInvalid (lit "revision_number must be a positive integer"))
  if revisionNumber = 1 then
    raiseIf (previousRevisionId ≠ none) (publicationInvalid (lit "first revision forbids previous_revision_id"))
  else derivedForm isRevisionId previousRevisionId (lit "previous_revision_id")

def checkTarget (tenantId : Str) (repositoryId : Option Str) : Except GateError Unit := do
  publicationIdentifier tenantId (lit "tenant_id")
  repositoryId.elim (.ok ()) (fun v => publicationIdentifier v (lit "repository_id"))

end Checks

section Approvals

structure MemoryRevisionApproval where
  approvalId : Str
  revisionId : Str
  memoryId : Str
  revisionNumber : Nat
  previousRevisionId : Option Str
  tenantId : Str
  repositoryId : Option Str
  artifactContentSha256 : Str
  evidenceBundleSha256 : Str
  approvedBy : Str
  approvedViaClientId : Str
  authorizationEventId : Str
  authorizationRequestSha256 : Str
  authorizationPolicySha256 : Str
  approvedAt : CanonicalTime
  approvalAttestationSha256 : Str
  deriving DecidableEq

namespace MemoryRevisionApproval

variable (a : MemoryRevisionApproval)

def unsigned : Fields :=
  [(lit "contract_version", .str (lit "tbm.memory-revision-approval.v3")), (lit "revision_id", .str a.revisionId),
    (lit "memory_id", .str a.memoryId), (lit "revision_number", .num (.int a.revisionNumber)),
    (lit "previous_revision_id", nullable a.previousRevisionId), (lit "tenant_id", .str a.tenantId),
    (lit "repository_id", nullable a.repositoryId), (lit "artifact_content_sha256", .str a.artifactContentSha256),
    (lit "evidence_bundle_sha256", .str a.evidenceBundleSha256), (lit "approved_by", .str a.approvedBy),
    (lit "approved_via_client_id", .str a.approvedViaClientId),
    (lit "authorization_event_id", .str a.authorizationEventId),
    (lit "authorization_request_sha256", .str a.authorizationRequestSha256),
    (lit "authorization_policy_sha256", .str a.authorizationPolicySha256), (lit "approved_at", .str a.approvedAt.text),
    (lit "approval_attestation_sha256", .str a.approvalAttestationSha256)]

def toDict : Json := .obj ((lit "approval_id", .str a.approvalId) :: a.unsigned)

def memoryRevisionApprovalId (hash : TextHash) (codec : FloatCodec) : Except GateError Str :=
  derivedId hash codec "memory_approval_sha256_" (.obj a.unsigned)

def check (hash : TextHash) (codec : FloatCodec) : Except GateError Unit := do
  derivedForm isApprovalId (some a.approvalId) (lit "approval_id")
  derivedForm isRevisionId (some a.revisionId) (lit "revision_id")
  publicationIdentifier a.memoryId (lit "memory_id")
  revisionLineageShape a.revisionNumber a.previousRevisionId
  checkTarget a.tenantId a.repositoryId
  publicationDigest a.artifactContentSha256 (lit "artifact_content_sha256")
  publicationDigest a.evidenceBundleSha256 (lit "evidence_bundle_sha256")
  publicationIdentifier a.approvedBy (lit "approved_by")
  publicationIdentifier a.approvedViaClientId (lit "approved_via_client_id")
  derivedForm isAuthorizationId (some a.authorizationEventId) (lit "authorization_event_id")
  publicationDigest a.authorizationRequestSha256 (lit "authorization_request_sha256")
  publicationDigest a.authorizationPolicySha256 (lit "authorization_policy_sha256")
  publicationDigest a.approvalAttestationSha256 (lit "approval_attestation_sha256")
  let expected ← a.memoryRevisionApprovalId hash codec
  raiseIf (a.approvalId ≠ expected) (publicationMismatch (lit "approval_id does not match approval content"))

end MemoryRevisionApproval

end Approvals

section Activations

structure MemoryRevisionActivation where
  activationId : Str
  revisionId : Str
  approvalId : Str
  memoryId : Str
  revisionNumber : Nat
  previousRevisionId : Option Str
  activationSequence : Nat
  previousActivationId : Option Str
  tenantId : Str
  repositoryId : Option Str
  activatedBy : Str
  activatedViaClientId : Str
  authorizationEventId : Str
  authorizationRequestSha256 : Str
  authorizationPolicySha256 : Str
  activatedAt : CanonicalTime
  activationAttestationSha256 : Str
  deriving DecidableEq

namespace MemoryRevisionActivation

variable (a : MemoryRevisionActivation)

def unsigned : Fields :=
  [(lit "contract_version", .str (lit "tbm.memory-revision-activation.v3")), (lit "revision_id", .str a.revisionId),
    (lit "approval_id", .str a.approvalId), (lit "memory_id", .str a.memoryId),
    (lit "revision_number", .num (.int a.revisionNumber)),
    (lit "previous_revision_id", nullable a.previousRevisionId),
    (lit "activation_sequence", .num (.int a.activationSequence)),
    (lit "previous_activation_id", nullable a.previousActivationId), (lit "tenant_id", .str a.tenantId),
    (lit "repository_id", nullable a.repositoryId), (lit "activated_by", .str a.activatedBy),
    (lit "activated_via_client_id", .str a.activatedViaClientId),
    (lit "authorization_event_id", .str a.authorizationEventId),
    (lit "authorization_request_sha256", .str a.authorizationRequestSha256),
    (lit "authorization_policy_sha256", .str a.authorizationPolicySha256),
    (lit "activated_at", .str a.activatedAt.text),
    (lit "activation_attestation_sha256", .str a.activationAttestationSha256)]

def toDict : Json := .obj ((lit "activation_id", .str a.activationId) :: a.unsigned)

def memoryRevisionActivationId (hash : TextHash) (codec : FloatCodec) : Except GateError Str :=
  derivedId hash codec "memory_activation_sha256_" (.obj a.unsigned)

def check (hash : TextHash) (codec : FloatCodec) : Except GateError Unit := do
  derivedForm isActivationId (some a.activationId) (lit "activation_id")
  derivedForm isRevisionId (some a.revisionId) (lit "revision_id")
  derivedForm isApprovalId (some a.approvalId) (lit "approval_id")
  publicationIdentifier a.memoryId (lit "memory_id")
  revisionLineageShape a.revisionNumber a.previousRevisionId
  raiseIf (a.activationSequence ≠ a.revisionNumber)
    (publicationInvalid (lit "activation_sequence must equal revision_number"))
  if a.activationSequence = 1 then
    raiseIf (a.previousActivationId ≠ none)
      (publicationInvalid (lit "first activation forbids previous_activation_id"))
  else derivedForm isActivationId a.previousActivationId (lit "previous_activation_id")
  checkTarget a.tenantId a.repositoryId
  publicationIdentifier a.activatedBy (lit "activated_by")
  publicationIdentifier a.activatedViaClientId (lit "activated_via_client_id")
  derivedForm isAuthorizationId (some a.authorizationEventId) (lit "authorization_event_id")
  publicationDigest a.authorizationRequestSha256 (lit "authorization_request_sha256")
  publicationDigest a.authorizationPolicySha256 (lit "authorization_policy_sha256")
  publicationDigest a.activationAttestationSha256 (lit "activation_attestation_sha256")
  let expected ← a.memoryRevisionActivationId hash codec
  raiseIf (a.activationId ≠ expected) (publicationMismatch (lit "activation_id does not match activation content"))

end MemoryRevisionActivation

end Activations

section Authority

-- the authorization that an event names: its policy, the request and the decision on it
structure Grant where
  policy : AuthorizationPolicyBundle
  request : AuthorizationRequest
  decision : AuthorizationDecision
  deriving DecidableEq

def publicationAuthorization (hash : TextHash) (codec : FloatCodec) (g : Grant) (permission : AuthorizationPermission)
    (actorId clientId tenantId : Str) (repositoryId : Option Str) (eventAt : CanonicalTime) : Except GateError Unit := do
  (verifyAuthorizationDecision hash codec g.policy g.request g.decision).mapError (fun _ =>
    ⟨.contract, lit "TBM_MEMORY_PUBLICATION_AUTHORIZATION_INVALID",
      lit "authorization decision failed exact verification"⟩)
  raiseIf (g.decision.allowed = false)
    ⟨.contract, lit "TBM_MEMORY_PUBLICATION_AUTHORIZATION_DENIED", lit "publication authorization was denied"⟩
  let decidedAt ← canonicalRfc3339 g.decision.decidedAt
  raiseIf (g.request.permission ≠ permission ∨ g.decision.permission ≠ permission ∨ g.request.principalId ≠ actorId ∨
      g.decision.principalId ≠ actorId ∨ g.request.agentClientId ≠ clientId ∨ g.decision.agentClientId ≠ clientId ∨
      g.request.tenantId ≠ some tenantId ∨ g.decision.tenantId ≠ some tenantId ∨
      g.decision.repositoryId ≠ repositoryId ∨ decidedAt ≠ eventAt.text)
    (publicationMismatch (lit "authorization does not match publication event"))
  match repositoryId with
  | none =>
    raiseIf (g.request.repositoryReference ≠ none)
      (publicationMismatch (lit "tenant publication authorization named a repository"))
  | some _ =>
    raiseIf (g.request.repositoryReference = none)
      (publicationMismatch (lit "repository publication authorization omitted repository"))

def scopeTarget (scope : AuthorizationScope) : Except GateError (Str × Option Str) := do
  raiseIf (scope.kind = .global) (publicationInvalid (lit "MemoryRevision publication forbids global scope"))
  let tenantId ← demand scope.tenantId (publicationInvalid (lit "publication scope requires tenant_id"))
  return (tenantId, scope.repositoryId)

variable (r : MemoryRevision) (fixes : Str → Option FixEvidence)
  (regressions : Str → Option StructuredRegressionEvidence)

def StructuredRegressionEvidence.actors (e : StructuredRegressionEvidence) : List Str := [e.submitterId, e.verifierId]

def requireIndependentEvidenceActor (actorId : Str) (role : String) : Except GateError Unit :=
  match r.memoryKind with
  | .projectPolicy => .ok ()
  | .lesson => do
    let fix ← demand (r.fixEvidenceId.bind fixes) (publicationInvalid (lit "fix evidence is missing"))
    let items ← collect (fun id => demand (regressions id) (publicationInvalid (lit "regression evidence is missing")))
      r.regressionEvidenceIds
    raiseIf (actorId ∈ fix.actors ++ items.flatMap StructuredRegressionEvidence.actors)
      (publicationInvalid (lit role ++ lit " must be independent of evidence actors"))

def evidenceBundleSha256 (hash : TextHash) (codec : FloatCodec) : Except GateError Str :=
  match r.memoryKind with
  | .projectPolicy =>
    canonicalSha256 hash codec (.obj [(lit "revision_id", .str r.revisionId), (lit "fix_evidence", .null),
      (lit "regression_evidence", .arr [])])
  | .lesson => do
    let fix ← demand (r.fixEvidenceId.bind fixes)
      (publicationInvalid (lit "fix evidence is missing from evidence bundle"))
    let items ← collect (fun id => demand (regressions id)
      (publicationInvalid (lit "regression evidence is missing from evidence bundle"))) r.regressionEvidenceIds
    canonicalSha256 hash codec (.obj [(lit "revision_id", .str r.revisionId), (lit "fix_evidence", fix.toDict),
      (lit "regression_evidence", .arr ((orderBy StructuredRegressionEvidence.evidenceId items).map
        StructuredRegressionEvidence.toDict))])

end Authority

section Publication

def lineage (r : MemoryRevision) (previous : Option MemoryRevision) : Except GateError Unit :=
  if r.revisionNumber = 1 then
    raiseIf (previous ≠ none) (publicationInvalid (lit "first revision forbids previous revision"))
  else do
    let p ← demand previous (publicationInvalid (lit "previous_revision must be exactly MemoryRevision"))
    raiseIf (r.previousRevisionId ≠ some p.revisionId ∨ r.memoryId ≠ p.memoryId ∨ r.memoryKind ≠ p.memoryKind ∨
        r.revisionNumber ≠ p.revisionNumber + 1 ∨ r.scope ≠ p.scope)
      (publicationMismatch (lit "previous revision does not establish linear lineage"))
    raiseIf (r.proposedAt.instant < p.proposedAt.instant)
      (publicationInvalid (lit "revision proposal time precedes previous revision"))

def activationLineage (r : MemoryRevision) (previous : Option MemoryRevisionActivation) : Except GateError Unit :=
  if r.revisionNumber = 1 then
    raiseIf (previous ≠ none) (publicationInvalid (lit "first activation forbids previous activation"))
  else do
    let p ← demand previous (publicationInvalid (lit "previous_activation must be exactly MemoryRevisionActivation"))
    raiseIf (some p.revisionId ≠ r.previousRevisionId ∨ p.memoryId ≠ r.memoryId ∨
        p.revisionNumber + 1 ≠ r.revisionNumber ∨ p.activationSequence + 1 ≠ r.revisionNumber ∨
        some p.tenantId ≠ r.scope.tenantId ∨ p.repositoryId ≠ r.scope.repositoryId)
      (publicationMismatch (lit "previous activation does not establish linear predecessor"))

-- what a caller publishes: the revision, its predecessor, the content and the evidence at hand
structure Submission where
  revision : MemoryRevision
  previousRevision : Option MemoryRevision
  content : List UInt8
  fixes : Str → Option FixEvidence
  regressions : Str → Option StructuredRegressionEvidence

structure ApprovalEvent where
  approvedBy : Str
  approvedViaClientId : Str
  approvedAt : Str
  attestationSha256 : Str
  deriving DecidableEq

structure ActivationEvent where
  activatedBy : Str
  activatedViaClientId : Str
  activatedAt : Str
  attestationSha256 : Str
  deriving DecidableEq

variable (hash : TextHash) (bytes : ContentHash) (codec : FloatCodec)

def approveMemoryRevision (s : Submission) (g : Grant) (event : ApprovalEvent) :
    Except GateError MemoryRevisionApproval := do
  let r := s.revision
  lineage r s.previousRevision
  raiseIf (verifyArtifactContent bytes r.contentArtifact s.content = false)
    (publicationMismatch (lit "content bytes do not match revision artifact"))
  (verifyMemoryRevisionEvidenceBundle r s.fixes s.regressions).mapError (fun _ =>
    ⟨.contract, lit "TBM_MEMORY_PUBLICATION_EVIDENCE_INVALID",
      lit "memory revision evidence bundle failed verification"⟩)
  publicationIdentifier event.approvedBy (lit "approved_by")
  publicationIdentifier event.approvedViaClientId (lit "approved_via_client_id")
  raiseIf (event.approvedBy = r.proposedBy) (publicationInvalid (lit "revision proposer must not approve the revision"))
  requireIndependentEvidenceActor r s.fixes s.regressions event.approvedBy "approver"
  let approvedAt ← publicationTime event.approvedAt (lit "approved_at")
  raiseIf (approvedAt.instant < r.proposedAt.instant)
    (publicationInvalid (lit "approved_at must not precede proposed_at"))
  let target ← scopeTarget r.scope
  publicationAuthorization hash codec g .memoryReview event.approvedBy event.approvedViaClientId target.1 target.2
    approvedAt
  let evidenceDigest ← evidenceBundleSha256 r s.fixes s.regressions hash codec
  let unnamed : MemoryRevisionApproval :=
    { approvalId := [], revisionId := r.revisionId, memoryId := r.memoryId, revisionNumber := r.revisionNumber,
      previousRevisionId := r.previousRevisionId, tenantId := target.1, repositoryId := target.2,
      artifactContentSha256 := r.contentArtifact.contentSha256, evidenceBundleSha256 := evidenceDigest,
      approvedBy := event.approvedBy, approvedViaClientId := event.approvedViaClientId,
      authorizationEventId := g.decision.authorizationEventId,
      authorizationRequestSha256 := g.decision.requestSha256, authorizationPolicySha256 := g.decision.policySha256,
      approvedAt := approvedAt, approvalAttestationSha256 := event.attestationSha256 }
  publicationDigest event.attestationSha256 (lit "approval_attestation_sha256")
  let approvalId ← unnamed.memoryRevisionApprovalId hash codec
  let a : MemoryRevisionApproval := { unnamed with approvalId := approvalId }
  a.check hash codec
  return a

def verifyMemoryRevisionApproval (a : MemoryRevisionApproval) (s : Submission) (g : Grant) : Except GateError Unit := do
  let expected ← approveMemoryRevision hash bytes codec s g
    ⟨a.approvedBy, a.approvedViaClientId, a.approvedAt.text, a.approvalAttestationSha256⟩
  raiseIf (expected ≠ a) (publicationMismatch (lit "approval does not match publication inputs"))

def activateMemoryRevision (s : Submission) (a : MemoryRevisionApproval) (approvalGrant : Grant)
    (previous : Option MemoryRevisionActivation) (g : Grant) (event : ActivationEvent) :
    Except GateError MemoryRevisionActivation := do
  let r := s.revision
  verifyMemoryRevisionApproval hash bytes codec a s approvalGrant
  let target ← scopeTarget r.scope
  raiseIf (a.revisionId ≠ r.revisionId ∨ a.memoryId ≠ r.memoryId ∨ a.revisionNumber ≠ r.revisionNumber ∨
      a.previousRevisionId ≠ r.previousRevisionId ∨ a.tenantId ≠ target.1 ∨ a.repositoryId ≠ target.2 ∨
      a.artifactContentSha256 ≠ r.contentArtifact.contentSha256)
    (publicationMismatch (lit "approval does not match revision"))
  activationLineage r previous
  publicationIdentifier event.activatedBy (lit "activated_by")
  publicationIdentifier event.activatedViaClientId (lit "activated_via_client_id")
  raiseIf (event.activatedBy ∈ [r.proposedBy, a.approvedBy])
    (publicationInvalid (lit "activator must be independent of proposer and approver"))
  requireIndependentEvidenceActor r s.fixes s.regressions event.activatedBy "activator"
  let activatedAt ← publicationTime event.activatedAt (lit "activated_at")
  raiseIf (activatedAt.instant < a.approvedAt.instant)
    (publicationInvalid (lit "activated_at must not precede approved_at"))
  publicationAuthorization hash codec g .memoryActivate event.activatedBy event.activatedViaClientId target.1 target.2
    activatedAt
  let unnamed : MemoryRevisionActivation :=
    { activationId := [], revisionId := r.revisionId, approvalId := a.approvalId, memoryId := r.memoryId,
      revisionNumber := r.revisionNumber, previousRevisionId := r.previousRevisionId,
      activationSequence := r.revisionNumber,
      previousActivationId := previous.map MemoryRevisionActivation.activationId, tenantId := target.1,
      repositoryId := target.2, activatedBy := event.activatedBy, activatedViaClientId := event.activatedViaClientId,
      authorizationEventId := g.decision.authorizationEventId,
      authorizationRequestSha256 := g.decision.requestSha256, authorizationPolicySha256 := g.decision.policySha256,
      activatedAt := activatedAt, activationAttestationSha256 := event.attestationSha256 }
  publicationDigest event.attestationSha256 (lit "activation_attestation_sha256")
  let activationId ← unnamed.memoryRevisionActivationId hash codec
  let activation : MemoryRevisionActivation := { unnamed with activationId := activationId }
  activation.check hash codec
  return activation

end Publication

end Publication

end TraceBackedMemory
