import TraceBackedMemory.Gate.SessionRuns
import TraceBackedMemory.Outbox.Steps
import TraceBackedMemory.Ledger.Port
import TraceBackedMemory.Foundation.JsonRecord

namespace TraceBackedMemory

open Text Raising

open Json (Fields valueAt)

namespace GateEvents

variable {sha : Sha256}

section Serialization

def contractVersion : Str := lit "tbm.gate-session.v3"

def canonicalRecord (r : GateSessionRecord) : Except GateError GateSessionRecord := do
  let createdAt ← canonicalRfc3339 r.createdAt
  let updatedAt ← canonicalRfc3339 r.updatedAt
  let expiresAt ← canonicalRfc3339 r.expiresAt
  let leaseExpiresAt ← optionalCanonical r.leaseExpiresAt
  return { r with
    createdAt := createdAt
    updatedAt := updatedAt
    expiresAt := expiresAt
    leaseExpiresAt := leaseExpiresAt }

def serializedFields (r : GateSessionRecord) : List (Str × Json) :=
  [(lit "contract_version", .str contractVersion),
    (lit "session_id", .str r.sessionId),
    (lit "tenant_id", .str r.tenantId),
    (lit "repository_id", .str r.repositoryId),
    (lit "principal_id", .str r.principalId),
    (lit "agent_client_id", .str r.agentClientId),
    (lit "trace_id", .str r.traceId),
    (lit "run_id", .str r.runId),
    (lit "request_fingerprint", .str r.requestFingerprint),
    (lit "idempotency_key", .str r.idempotencyKey),
    (lit "status", .str r.status.text),
    (lit "version", jsonInt r.version),
    (lit "created_at", .str r.createdAt),
    (lit "updated_at", .str r.updatedAt),
    (lit "expires_at", .str r.expiresAt),
    (lit "lease_expires_at", jsonOptional r.leaseExpiresAt),
    (lit "retrieval_snapshot_id", jsonOptional r.retrievalSnapshotId),
    (lit "system_gate_evaluation_id", jsonOptional r.systemGateEvaluationId),
    (lit "semantic_gate_attempt_ids", .arr (r.semanticGateAttemptIds.map .str)),
    (lit "decision_id", jsonOptional r.decisionId),
    (lit "final_memory_revision_ids", .arr (r.finalMemoryRevisionIds.map .str)),
    (lit "injection_artifact_id", jsonOptional r.injectionArtifactId),
    (lit "usage_decision_id", jsonOptional r.usageDecisionId),
    (lit "run_outcome_id", jsonOptional r.runOutcomeId),
    (lit "terminal_reason", jsonOptional r.terminalReason)]

def serialized (r : GateSessionRecord) : Json := .obj (serializedFields r)

def toDict (s : GateSession) : Except GateError Json := do
  let record ← canonicalRecord s.toGateSessionRecord
  return serialized record

def fieldNames : List Str :=
  [lit "contract_version", lit "session_id", lit "tenant_id", lit "repository_id",
    lit "principal_id", lit "agent_client_id", lit "trace_id", lit "run_id",
    lit "request_fingerprint", lit "idempotency_key", lit "status", lit "version",
    lit "created_at", lit "updated_at", lit "expires_at", lit "lease_expires_at",
    lit "retrieval_snapshot_id", lit "system_gate_evaluation_id",
    lit "semantic_gate_attempt_ids", lit "decision_id", lit "final_memory_revision_ids",
    lit "injection_artifact_id", lit "usage_decision_id", lit "run_outcome_id",
    lit "terminal_reason"]

def refuseNamed (prefixText : Str) (names : List Str) : Except GateError Unit :=
  match sortedStrs names with
  | [] => .ok ()
  | name :: _ => .error (invalidSession (prefixText ++ name))

def stringField (fields : Fields) (name : Str) : Except GateError Str :=
  match Json.field? name fields with
  | some (.str s) => .ok s
  | _ => .error (invalidSession (name ++ lit " must be a string"))

def optionalStringField (fields : Fields) (name : Str) : Except GateError (Option Str) :=
  match Json.field? name fields with
  | some .null => .ok none
  | some (.str s) => .ok (some s)
  | _ => .error (invalidSession (name ++ lit " must be a string or null"))

def integerField (fields : Fields) (name : Str) : Except GateError Int :=
  match Json.field? name fields with
  | some (.num (.int n)) => .ok n
  | _ => .error (invalidSession (name ++ lit " must be an integer"))

def strings? : List Json → Option (List Str)
  | [] => some []
  | .str s :: l => (strings? l).map (s :: ·)
  | _ :: _ => none

def stringListField (fields : Fields) (name : Str) : Except GateError (List Str) :=
  match Json.field? name fields with
  | some (.arr items) =>
    demand (strings? items) (invalidSession (name ++ lit " must be an array of strings"))
  | _ => .error (invalidSession (name ++ lit " must be an array of strings"))

def statuses : List GateSessionStatus :=
  [.created, .prepared, .awaitingDecision, .decided, .finalized, .executing, .completed, .canceled,
    .expired, .abandoned]

def statusOf (text : Str) : Except GateError GateSessionStatus :=
  demand (statuses.find? (fun status => decide (status.text = text)))
    (invalidSession (lit "status must be a supported GateSession status"))

-- what the constructor checks before the status
def checkTexts (i : SessionIdentity) : Except GateError Unit := do
  checkEach (fun f : Str × Str => requiredIdentifier f.2 f.1)
    [(lit "session_id", i.sessionId), (lit "tenant_id", i.tenantId),
      (lit "repository_id", i.repositoryId), (lit "principal_id", i.principalId),
      (lit "agent_client_id", i.agentClientId), (lit "trace_id", i.traceId), (lit "run_id", i.runId)]
  raiseIf (isDigest i.requestFingerprint = false)
    (invalidSession (lit "request_fingerprint must be an algorithm-tagged SHA-256 digest"))
  requiredMetadata i.idempotencyKey (lit "idempotency_key")

def parseRecord (fields : Fields) : Except GateError GateSessionRecord := do
  let version ← stringField fields (lit "contract_version")
  let sessionId ← stringField fields (lit "session_id")
  let tenantId ← stringField fields (lit "tenant_id")
  let repositoryId ← stringField fields (lit "repository_id")
  let principalId ← stringField fields (lit "principal_id")
  let agentClientId ← stringField fields (lit "agent_client_id")
  let traceId ← stringField fields (lit "trace_id")
  let runId ← stringField fields (lit "run_id")
  let requestFingerprint ← stringField fields (lit "request_fingerprint")
  let idempotencyKey ← stringField fields (lit "idempotency_key")
  let status ← stringField fields (lit "status")
  let revision ← integerField fields (lit "version")
  let createdAt ← stringField fields (lit "created_at")
  let updatedAt ← stringField fields (lit "updated_at")
  let expiresAt ← stringField fields (lit "expires_at")
  let leaseExpiresAt ← optionalStringField fields (lit "lease_expires_at")
  let retrievalSnapshotId ← optionalStringField fields (lit "retrieval_snapshot_id")
  let systemGateEvaluationId ← optionalStringField fields (lit "system_gate_evaluation_id")
  let semanticGateAttemptIds ← stringListField fields (lit "semantic_gate_attempt_ids")
  let decisionId ← optionalStringField fields (lit "decision_id")
  let finalMemoryRevisionIds ← stringListField fields (lit "final_memory_revision_ids")
  let injectionArtifactId ← optionalStringField fields (lit "injection_artifact_id")
  let usageDecisionId ← optionalStringField fields (lit "usage_decision_id")
  let runOutcomeId ← optionalStringField fields (lit "run_outcome_id")
  let terminalReason ← optionalStringField fields (lit "terminal_reason")
  raiseIf (version ≠ contractVersion)
    (invalidSession (lit "contract_version must be " ++ contractVersion))
  checkTexts ⟨sessionId, tenantId, repositoryId, principalId, agentClientId, traceId, runId, requestFingerprint,
    idempotencyKey⟩
  let status ← statusOf status
  return {
    sessionId, tenantId, repositoryId, principalId, agentClientId, traceId, runId,
    requestFingerprint, idempotencyKey, status, version := revision.toNat, createdAt, updatedAt,
    expiresAt, leaseExpiresAt, retrievalSnapshotId, systemGateEvaluationId,
    semanticGateAttemptIds, decisionId, finalMemoryRevisionIds, injectionArtifactId,
    usageDecisionId, runOutcomeId, terminalReason }

def parseGateSession (payload : Json) : Except GateError GateSession :=
  match payload with
  | .obj fields => do
    refuseNamed (lit "GateSession payload has unknown field: ")
      ((fields.map Prod.fst).filter (fun name => decide (name ∉ fieldNames)))
    refuseNamed (lit "GateSession payload is missing field: ")
      (fieldNames.filter (fun name => decide (name ∉ fields.map Prod.fst)))
    let record ← parseRecord fields
    record.build
  | _ => .error (invalidSession (lit "GateSession payload must be a JSON object"))

end Serialization

section Digests

def invalidGateEvent (message : Str) : GateError :=
  ⟨.contract, lit "TBM_GATE_SESSION_EVENT_INVALID", message⟩

def orInvalid {ε α : Type} (x : Except ε α) (message : Str) : Except GateError α :=
  match x with
  | .ok a => .ok a
  | .error _ => .error (invalidGateEvent message)

variable (sha)

def domainSha256 (domain : Str) (value : Json) : Except GateError Str := do
  raiseIf (encodable value = false)
    (invalidGateEvent (lit "GateSession event value is not canonical JSON"))
  return sha.domain domain value

def revisionSha256 (s : GateSession) : Except GateError Str := do
  let value ← toDict s
  domainSha256 sha (lit "tbm.gate-session-revision.v1\x00") value

def previousRevisionSha256 : Option GateSession → Except GateError (Option Str)
  | none => .ok none
  | some s => do
    let digest ← revisionSha256 sha s
    return some digest

def eventIdentitySha256 (sessionId : Str) (sessionVersion : Nat) : Except GateError Str :=
  domainSha256 sha (lit "tbm.gate-session-event-identity.v1\x00")
    (.obj [(lit "session_id", .str sessionId), (lit "session_version", jsonInt sessionVersion)])

def eventCommandSha256 (eventType : Str) (payload : Json) (authorizationDecisionId : Str) :
    Except GateError Str :=
  domainSha256 sha (lit "tbm.gate-session-event-command.v1\x00")
    (.obj [(lit "event_type", .str eventType), (lit "payload", payload),
      (lit "authorization_decision_id", .str authorizationDecisionId)])

def correlationSha256 (sessionId : Str) : Except GateError Str :=
  domainSha256 sha (lit "tbm.gate-session-correlation.v1\x00")
    (.obj [(lit "session_id", .str sessionId)])

def removeTag (digest : Str) : Str := digest.drop 7

def eventIdOf (identity : Str) : Str := lit "evt_gate_" ++ removeTag identity

def requestIdOf (identity : Str) : Str := lit "gate_request_" ++ (removeTag identity).take 48

def correlationIdOf (digest : Str) : Str := lit "gate_correlation_" ++ (removeTag digest).take 40

end Digests

section EventTypes

def statusEventType : GateSessionStatus → Str
  | .created => lit "tbm.gate_session.created"
  | .prepared => lit "tbm.gate_session.prepared"
  | .awaitingDecision => lit "tbm.semantic_gate.requested"
  | .decided => lit "tbm.semantic_gate.decided"
  | .finalized => lit "tbm.usage_decision.finalized"
  | .executing => lit "tbm.execution.started"
  | .completed => lit "tbm.gate_session.completed"
  | .canceled => lit "tbm.gate_session.canceled"
  | .expired => lit "tbm.gate_session.expired"
  | .abandoned => lit "tbm.execution.abandoned"

def leaseRenewedEvent : Str := lit "tbm.gate_session.lease_renewed"

def gateSessionEventTypes : List Str :=
  [lit "tbm.execution.abandoned", lit "tbm.execution.started", lit "tbm.gate_session.canceled",
    lit "tbm.gate_session.completed", lit "tbm.gate_session.created", lit "tbm.gate_session.expired",
    lit "tbm.gate_session.lease_renewed", lit "tbm.gate_session.prepared",
    lit "tbm.semantic_gate.decided", lit "tbm.semantic_gate.requested",
    lit "tbm.usage_decision.finalized"]

def gateSessionEventType (s : GateSession) : Option GateSession → Except GateError Str
  | none => do
    raiseIf (s.status ≠ .created ∨ s.version ≠ 1)
      (invalidGateEvent (lit "the first GateSession event must contain revision 1 created"))
    return statusEventType .created
  | some previous => do
    raiseIf (s.sessionId ≠ previous.sessionId)
      (invalidGateEvent (lit "GateSession event revisions must retain session_id"))
    raiseIf (s.version ≠ previous.version + 1)
      (invalidGateEvent (lit "GateSession event revisions must advance by one"))
    return if s.status = previous.status then leaseRenewedEvent else statusEventType s.status

def plausibleEventTypes (s : GateSession) : List Str :=
  if s.version = 1 then [statusEventType .created]
  else if s.status.activeLease = true then [statusEventType s.status, leaseRenewedEvent]
  else [statusEventType s.status]

end EventTypes

section Verification

def streamType : Str := lit "gate_session"

def retentionPolicyId : Str := lit "retention_engineering_memory"

def eventContractVersion : Str := lit "tbm.gate-session-event.v1"

def envelopeInvalid (e : CanonicalEvent sha) : Prop :=
  e.eventVersion ≠ 1 ∨ e.eventKind ≠ .domain ∨ e.origin ≠ .native ∨ e.source ≠ none ∨
    e.streamType ≠ streamType ∨ e.payloadSchema ≠ e.eventType ++ lit ".v1" ∨
    e.classification ≠ .internal ∨ e.retentionPolicyId ≠ retentionPolicyId ∨ e.artifactRefs ≠ []

instance decidableEnvelopeInvalid (e : CanonicalEvent sha) : Decidable (envelopeInvalid e) :=
  inferInstanceAs (Decidable (_ ∨ _))

def plainMapping (value : Json) (name : Str) : Except GateError Fields :=
  match value with
  | .obj fields => .ok fields
  | _ => .error (invalidGateEvent (name ++ lit " must be an object"))

def payloadFields : List Str :=
  [lit "contract_version", lit "session", lit "session_sha256", lit "previous_session_sha256",
    lit "transition_authorization_event_id"]

def keysAre (fields : Fields) (names : List Str) : Bool :=
  (fields.map Prod.fst).all (fun name => decide (name ∈ names)) &&
    names.all (fun name => decide (name ∈ fields.map Prod.fst))

def identityMatches (s : GateSession) (tenantId repositoryId principalId agentClientId : Str) : Prop :=
  s.tenantId = tenantId ∧ s.repositoryId = repositoryId ∧ s.principalId = principalId ∧
    s.agentClientId = agentClientId

instance decidableIdentityMatches (s : GateSession) (a b c d : Str) :
    Decidable (identityMatches s a b c d) := inferInstanceAs (Decidable (_ ∧ _))

def verifyContext (s : GateSession) (c : EventTrustedContext) : Except GateError Unit :=
  raiseIf (¬identityMatches s c.tenantId c.repositoryId c.principalId c.agentClientId)
    (invalidGateEvent (lit "GateSession and trusted event context do not match"))

def verifyEventIdentity (s : GateSession) (e : CanonicalEvent sha) : Except GateError Unit :=
  raiseIf (¬identityMatches s e.tenantId e.repositoryId e.principalId e.agentClientId)
    (invalidGateEvent (lit "GateSession event trusted identity is invalid"))

def expectedCausation (sha : Sha256) (s : GateSession) : Except GateError (Option Str) :=
  if s.version = 1 then .ok none
  else do
    let identity ← eventIdentitySha256 sha s.sessionId (s.version - 1)
    return some (eventIdOf identity)

def producerName : Str := lit "trace_backed_memory"

def producerVersionText : Str := lit "0.1.0"

def verifyDeterministicEnvelope (s : GateSession) (e : CanonicalEvent sha) (payload : Json) :
    Except GateError Unit := do
  let identity ← eventIdentitySha256 sha s.sessionId s.version
  let correlation ← correlationSha256 sha s.sessionId
  let causation ← expectedCausation sha s
  let timestamp ← canonicalRfc3339 s.updatedAt
  let command ← eventCommandSha256 sha e.eventType payload e.authorizationDecisionId
  raiseIf (e.eventId ≠ eventIdOf identity ∨ e.requestId ≠ requestIdOf identity ∨
      e.idempotencyKeySha256 ≠ identity ∨ e.requestSha256 ≠ command ∨
      e.correlationId ≠ correlationIdOf correlation ∨ e.causationId ≠ causation ∨
      e.occurredAt ≠ some timestamp ∨ e.recordedAt ≠ timestamp ∨ e.producer ≠ producerName ∨
      e.producerVersion ≠ producerVersionText)
    (invalidGateEvent (lit "GateSession event deterministic envelope is invalid"))

def verifyParentPrior (s : GateSession) (prior : Json) : Except GateError Unit :=
  if s.version = 1 then
    raiseIf (prior ≠ .null)
      (invalidGateEvent (lit "first GateSession parent cannot name a prior revision"))
  else
    match prior with
    | .str digest =>
      raiseIf (validDigest digest = false)
        (invalidGateEvent (lit "GateSession parent prior revision digest is invalid"))
    | _ => .error (invalidGateEvent (lit "GateSession parent prior revision digest is invalid"))

def verifyParentRevision (parent : CanonicalEvent sha) (previous : GateSession) :
    Except GateError Unit := do
  raiseIf (parent.eventType ∉ plausibleEventTypes previous ∨ envelopeInvalid parent ∨
      parent.streamId ≠ previous.sessionId ∨ parent.streamVersion ≠ previous.version)
    (invalidGateEvent (lit "GateSession event parent is invalid"))
  let fields ← plainMapping parent.payload (lit "GateSession parent event payload")
  raiseIf (keysAre fields payloadFields = false)
    (invalidGateEvent (lit "GateSession parent event payload fields are invalid"))
  raiseIf (valueAt fields (lit "contract_version") ≠ .str eventContractVersion)
    (invalidGateEvent (lit "GateSession parent event contract version is invalid"))
  let sessionFields ← plainMapping (valueAt fields (lit "session"))
    (lit "GateSession parent event session")
  let session ← orInvalid (parseGateSession (.obj sessionFields))
    (lit "GateSession parent event contains an invalid revision")
  raiseIf (session ≠ previous)
    (invalidGateEvent (lit "GateSession parent does not contain the previous revision"))
  let digest ← revisionSha256 sha session
  raiseIf (valueAt fields (lit "session_sha256") ≠ .str digest)
    (invalidGateEvent (lit "GateSession parent revision digest is invalid"))
  verifyParentPrior session (valueAt fields (lit "previous_session_sha256"))
  raiseIf (valueAt fields (lit "transition_authorization_event_id") ≠
      .str parent.authorizationDecisionId)
    (invalidGateEvent (lit "GateSession parent authorization linkage is invalid"))
  verifyEventIdentity session parent
  verifyDeterministicEnvelope session parent parent.payload

def transitionArguments (s : GateSession) : TransitionFields :=
  match s.status with
  | .prepared =>
    { leaseExpiresAt := s.leaseExpiresAt
      retrievalSnapshotId := s.retrievalSnapshotId
      systemGateEvaluationId := s.systemGateEvaluationId }
  | .decided =>
    { semanticGateAttemptIds := some s.semanticGateAttemptIds, decisionId := s.decisionId }
  | .finalized =>
    { finalMemoryRevisionIds := some s.finalMemoryRevisionIds
      injectionArtifactId := s.injectionArtifactId
      usageDecisionId := s.usageDecisionId }
  | .completed => { runOutcomeId := s.runOutcomeId }
  | .canceled | .expired | .abandoned => { terminalReason := s.terminalReason }
  | .created | .awaitingDecision | .executing => {}

def renewalOf (previous s : GateSession) : Except GateError GateSession :=
  match s.leaseExpiresAt with
  | none => .error GateSession.renewalTimestamps
  | some lease => previous.renewLease previous.version s.updatedAt lease

def expectedRevision (previous s : GateSession) : Except GateError GateSession :=
  if s.status = previous.status then
    orInvalid (renewalOf previous s) (lit "GateSession lease-renewal event is invalid")
  else
    orInvalid (previous.transition s.status previous.version s.updatedAt (transitionArguments s))
      (lit "GateSession transition event is invalid")

def verifyRevisionTransition (s : GateSession) : Option GateSession → Except GateError Unit
  | none => .ok ()
  | some previous => do
    let expected ← expectedRevision previous s
    raiseIf (expected ≠ s)
      (invalidGateEvent (lit "GateSession event revision is not the exact domain transition"))

def verifyParent (e : CanonicalEvent sha) (previous : Option GateSession) :
    Option (CanonicalEvent sha) → Except GateError Unit
  | none => .ok ()
  | some parent =>
    match previous with
    | none => .error (invalidGateEvent (lit "first GateSession event cannot have a parent"))
    | some previous => do
      verifyParentRevision parent previous
      orInvalid (verifyEventParent e (some parent))
        (lit "GateSession event parent chain is invalid")

def parseGateSessionEvent (e : CanonicalEvent sha) (previous : Option GateSession)
    (parent : Option (CanonicalEvent sha)) : Except GateError GateSession := do
  raiseIf (e.eventType ∉ gateSessionEventTypes)
    (invalidGateEvent (lit "event is not a GateSession revision event"))
  raiseIf (envelopeInvalid e) (invalidGateEvent (lit "GateSession event envelope is invalid"))
  let fields ← plainMapping e.payload (lit "GateSession event payload")
  raiseIf (keysAre fields payloadFields = false)
    (invalidGateEvent (lit "GateSession event payload fields are invalid"))
  raiseIf (valueAt fields (lit "contract_version") ≠ .str eventContractVersion)
    (invalidGateEvent (lit "GateSession event payload contract version is invalid"))
  let sessionFields ← plainMapping (valueAt fields (lit "session"))
    (lit "GateSession event session")
  let session ← orInvalid (parseGateSession (.obj sessionFields))
    (lit "GateSession event contains an invalid revision")
  let digest ← revisionSha256 sha session
  raiseIf (valueAt fields (lit "session_sha256") ≠ .str digest)
    (invalidGateEvent (lit "GateSession event session digest is invalid"))
  let previousDigest ← previousRevisionSha256 sha previous
  raiseIf (valueAt fields (lit "previous_session_sha256") ≠ jsonOptional previousDigest)
    (invalidGateEvent (lit "GateSession event previous revision digest is invalid"))
  raiseIf (valueAt fields (lit "transition_authorization_event_id") ≠
      .str e.authorizationDecisionId)
    (invalidGateEvent (lit "GateSession event authorization linkage is invalid"))
  raiseIf (e.streamId ≠ session.sessionId ∨ e.streamVersion ≠ session.version)
    (invalidGateEvent (lit "GateSession event stream identity is invalid"))
  verifyEventIdentity session e
  let eventType ← gateSessionEventType session previous
  raiseIf (eventType ≠ e.eventType)
    (invalidGateEvent (lit "GateSession event type does not match its revision"))
  verifyDeterministicEnvelope session e e.payload
  verifyParent e previous parent
  verifyRevisionTransition session previous
  return session

end Verification

section Building

def eventPayload (session : Json) (sessionSha256 : Str) (previousSessionSha256 : Option Str)
    (authorizationDecisionId : Str) : Json :=
  .obj [(lit "contract_version", .str eventContractVersion), (lit "session", session),
    (lit "session_sha256", .str sessionSha256),
    (lit "previous_session_sha256", jsonOptional previousSessionSha256),
    (lit "transition_authorization_event_id", .str authorizationDecisionId)]

-- admits stands for the field checks of a canonical event that only refuse an envelope.
def buildCanonicalEvent (sha : Sha256) (admits : EventEnvelope → Except GateError Unit)
    (e : EventEnvelope) : Except GateError (CanonicalEvent sha) := do
  admits e
  raiseIf (encodable e.toDict = false)
    ⟨.contract, lit "TBM_EVENT_NON_CANONICAL_JSON",
      lit "value cannot be encoded as finite canonical JSON"⟩
  if h : ((1 ≤ e.streamVersion ∧ e.streamVersion ≤ eventMaxVersion) ∧
      1 ≤ e.globalPosition ∧ e.globalPosition ≤ eventMaxVersion) ∧
      (e.streamVersion = 1 ↔ e.previousStreamEventSha256 = none) then
    return ⟨e, canonicalEventSha256 sha e, rfl, h.1.1, h.1.2, h.2⟩
  else
    .error ⟨.contract, lit "TBM_EVENT_INVALID", lit "event envelope is invalid"⟩

def verifyParentIdentity (s : GateSession) (previous : Option GateSession) :
    Option (CanonicalEvent sha) → Except GateError Unit
  | none =>
    raiseIf (previous ≠ none)
      (invalidGateEvent (lit "GateSession event parent and previous revision must align"))
  | some parent =>
    match previous with
    | none =>
      .error (invalidGateEvent (lit "GateSession event parent and previous revision must align"))
    | some previous => do
      raiseIf (parent.streamId ≠ s.sessionId ∨ parent.streamType ≠ streamType ∨
          parent.streamVersion ≠ s.version - 1 ∨ parent.eventType ∉ gateSessionEventTypes)
        (invalidGateEvent (lit "GateSession event parent is invalid"))
      verifyParentRevision parent previous

def buildGateSessionEvent (sha : Sha256) (admits : EventEnvelope → Except GateError Unit)
    (s : GateSession) (previous : Option GateSession) (parent : Option (CanonicalEvent sha))
    (globalPosition : Nat) (c : EventTrustedContext) : Except GateError (CanonicalEvent sha) := do
  let eventType ← gateSessionEventType s previous
  verifyContext s c
  verifyParentIdentity s previous parent
  let session ← toDict s
  let sessionSha256 ← revisionSha256 sha s
  let previousSessionSha256 ← previousRevisionSha256 sha previous
  let payload := eventPayload session sessionSha256 previousSessionSha256 c.authorizationDecisionId
  let command ← eventCommandSha256 sha eventType payload c.authorizationDecisionId
  let identity ← eventIdentitySha256 sha s.sessionId s.version
  let correlation ← correlationSha256 sha s.sessionId
  let recordedAt ← canonicalRfc3339 s.updatedAt
  let event ← buildCanonicalEvent sha admits
    { eventId := eventIdOf identity
      eventType := eventType
      eventVersion := 1
      eventKind := .domain
      origin := .native
      source := none
      streamId := s.sessionId
      streamType := streamType
      streamVersion := s.version
      globalPosition := globalPosition
      organizationId := c.organizationId
      tenantId := c.tenantId
      repositoryId := c.repositoryId
      environmentId := c.environmentId
      principalId := c.principalId
      agentClientId := c.agentClientId
      actorType := c.actorType
      actorId := c.actorId
      authorizationDecisionId := c.authorizationDecisionId
      requestId := requestIdOf identity
      idempotencyKeySha256 := identity
      requestSha256 := command
      correlationId := correlationIdOf correlation
      causationId := parent.map (·.eventId)
      occurredAt := some recordedAt
      recordedAt := recordedAt
      producer := producerName
      producerVersion := producerVersionText
      payloadSchema := eventType ++ lit ".v1"
      payloadSha256 := sha.domain [] payload
      previousStreamEventSha256 := parent.map (·.eventSha256)
      classification := .internal
      retentionPolicyId := retentionPolicyId
      artifactRefs := []
      payload := payload }
  orInvalid (verifyEventParent event parent) (lit "GateSession event parent chain is invalid")
  let _ ← parseGateSessionEvent event previous parent
  return event

end Building

end GateEvents

end TraceBackedMemory
