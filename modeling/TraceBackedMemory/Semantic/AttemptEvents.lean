import TraceBackedMemory.Semantic.EvidenceEvents

namespace TraceBackedMemory

open Text Raising Replay

open GateEvents (keysAre removeTag producerName producerVersionText retentionPolicyId)

open Json (Fields valueAt)

namespace SemanticGate

section References

def invalidAttemptEvent (message : String) : GateError :=
  ⟨.contract, lit "TBM_SEMANTIC_GATE_ATTEMPT_EVENT_INVALID", lit message⟩

def attemptEventType : AttemptStatus → Str
  | .succeeded => lit "tbm.semantic_gate.attempt_succeeded"
  | .failed => lit "tbm.semantic_gate.attempt_failed"

def attemptEventTypes : List Str := [attemptEventType .failed, attemptEventType .succeeded]

def attemptStreamType : Str := lit "semantic_gate_attempt_chain"

def attemptContractVersion : Str := lit "tbm.semantic-gate-attempt-event.v1"

structure AttemptEventRef where
  attemptId : Str
  streamId : Str
  sessionId : Str
  retrievalSnapshotId : Str
  systemGateEvaluationId : Str
  sequence : Nat
  previousAttemptId : Option Str
  providerId : Str
  modelId : Str
  modelVersion : Str
  endpointId : Option Str
  promptTemplateId : Str
  promptTemplateVersion : Str
  promptArtifactSha256 : Str
  responseArtifactSha256 : Option Str
  generationConfigSha256 : Str
  providerRequestId : Option Str
  status : AttemptStatus
  decisionId : Option Str
  finalAllowedRevisionIds : List Str
  finalBlockedRevisionIds : List Str
  risk : Option SemanticRisk
  recommendedInjection : Option RecommendedInjection
  errorCode : Option Str
  inputTokens : Option Nat
  outputTokens : Option Nat
  latencyMs : Nat
  startedAt : Str
  finishedAt : Str
  attemptArtifactRef : EventArtifactRef
  promptArtifactRef : EventArtifactRef
  responseArtifactRef : Option EventArtifactRef
  causationEventId : Str
  deriving DecidableEq

variable (sha : Sha256)

def attemptStreamId (systemGateEvaluationId : Str) : Except GateError Str := do
  raiseIf (isSystemGateId systemGateEvaluationId = false)
    (invalidAttemptEvent "system_gate_evaluation_id is invalid")
  return contentIdIn
where
  contentIdIn : Str := lit "semantic_gate_stream_sha256_" ++
    sha.hexdigest (lit "tbm.semantic-gate-attempt-stream.v1\x00")
      (.obj [(lit "system_gate_evaluation_id", .str systemGateEvaluationId)])

def attemptIdentitySha256 (attemptId : Str) : Str :=
  sha.domain (lit "tbm.semantic-gate-attempt-event-identity.v1\x00")
    (.obj [(lit "attempt_id", .str attemptId)])

def attemptEventId (attemptId : Str) : Except GateError Str := do
  raiseIf (isAttemptId attemptId = false) (invalidAttemptEvent "attempt_id is invalid")
  return lit "evt_semantic_attempt_" ++ removeTag (attemptIdentitySha256 sha attemptId)

def systemGateEventId (systemGateEvaluationId : Str) : Except GateError Str := do
  raiseIf (isBoundedIdentifier systemGateEvaluationId = false) (invalidEvidence "record_id is invalid")
  return gateEvidenceEventId sha systemGateEvaluatedEvent systemGateEvaluationId

def sortedUniqueArtifactRefs (values : List EventArtifactRef) :
    Except GateError (List EventArtifactRef) := do
  raiseIf (∃ a ∈ values, ∃ b ∈ values, a.artifactId = b.artifactId ∧ a ≠ b)
    (invalidAttemptEvent "one Artifact ID has conflicting descriptors")
  return values.dedup.insertionSort (fun a b => a.artifactId ≤ b.artifactId)

namespace AttemptEventRef

def artifactRefs (r : AttemptEventRef) : Except GateError (List EventArtifactRef) :=
  sortedUniqueArtifactRefs
    ([r.attemptArtifactRef, r.promptArtifactRef] ++ r.responseArtifactRef.toList)

def checkIdentifiers (fields : List (Str × String)) : Except GateError Unit :=
  checkEach (fun f => raiseIf (isBoundedIdentifier f.1 = false)
    (invalidAttemptEvent (f.2 ++ " is invalid"))) fields

def checkDigest (value : Str) (name : String) : Except GateError Unit :=
  raiseIf (validDigest value = false) (invalidAttemptEvent (name ++ " is invalid"))

def checkRevisionIds (ids : List Str) (name : String) : Except GateError Unit :=
  raiseIf (4096 < ids.length ∨ ¬ids.Nodup ∨ ∃ id ∈ ids, isRevisionId id = false)
    (invalidAttemptEvent (name ++ " is invalid"))

def checkCount (value : Nat) (name : String) : Except GateError Unit :=
  raiseIf (1000000000 < value) (invalidAttemptEvent (name ++ " is invalid"))

def expectedCausation (r : AttemptEventRef) : Except GateError Str :=
  if r.sequence = 1 then do
    raiseIf (r.previousAttemptId ≠ none)
      (invalidAttemptEvent "first attempt cannot name a previous attempt")
    systemGateEventId sha r.systemGateEvaluationId
  else do
    let previous ← demand (r.previousAttemptId.filter isAttemptId)
      (invalidAttemptEvent "retry attempt requires a valid previous_attempt_id")
    attemptEventId sha previous

def descriptorInvalid (a : EventArtifactRef) : Prop :=
  a.mediaType ≠ lit "application/json" ∨ a.classification ≠ .internal ∨ a.encryptionKeyId ≠ none

instance decidableDescriptorInvalid (a : EventArtifactRef) : Decidable (descriptorInvalid a) :=
  inferInstanceAs (Decidable (_ ∨ _))

def checkOutcome (r : AttemptEventRef) : Except GateError Unit :=
  match r.status with
  | .succeeded =>
    raiseIf (r.responseArtifactSha256 = none ∨
        r.responseArtifactRef.map EventArtifactRef.contentSha256 ≠ r.responseArtifactSha256 ∨
        r.decisionId = none ∨ r.risk = none ∨ r.recommendedInjection = none ∨ r.errorCode ≠ none)
      (invalidAttemptEvent "succeeded attempt event fields are invalid")
  | .failed =>
    raiseIf (r.responseArtifactSha256 ≠ none ∨ r.responseArtifactRef ≠ none ∨ r.decisionId ≠ none ∨
        r.finalAllowedRevisionIds ≠ [] ∨ r.finalBlockedRevisionIds ≠ [] ∨ r.risk ≠ none ∨
        r.recommendedInjection ≠ none ∨ r.errorCode = none)
      (invalidAttemptEvent "failed attempt event fields are invalid")

def checkTimes (r : AttemptEventRef) : Except GateError Unit := do
  let finished ← demand (instant? r.finishedAt) (invalidAttemptEvent "attempt timestamps are invalid")
  let started ← demand (instant? r.startedAt) (invalidAttemptEvent "attempt timestamps are invalid")
  raiseIf (finished < started) (invalidAttemptEvent "finished_at precedes started_at")

def check (r : AttemptEventRef) : Except GateError Unit := do
  raiseIf (isAttemptId r.attemptId = false) (invalidAttemptEvent "attempt_id is invalid")
  let streamId ← attemptStreamId sha r.systemGateEvaluationId
  raiseIf (r.streamId ≠ streamId)
    (invalidAttemptEvent "stream_id does not match the System Gate evaluation")
  checkIdentifiers [(r.sessionId, "session_id"), (r.providerId, "provider_id"), (r.modelId, "model_id"),
    (r.modelVersion, "model_version"), (r.promptTemplateId, "prompt_template_id"),
    (r.promptTemplateVersion, "prompt_template_version")]
  raiseIf (isSnapshotId r.retrievalSnapshotId = false)
    (invalidAttemptEvent "retrieval_snapshot_id is invalid")
  checkIdentifiers (r.endpointId.toList.map (fun v => (v, "endpoint_id")) ++
    r.providerRequestId.toList.map (fun v => (v, "provider_request_id")) ++
    r.decisionId.toList.map (fun v => (v, "decision_id")))
  raiseIf (¬(1 ≤ r.sequence ∧ r.sequence ≤ 4096)) (invalidAttemptEvent "sequence is invalid")
  let causation ← r.expectedCausation sha
  raiseIf (r.causationEventId ≠ causation)
    (invalidAttemptEvent "causation_event_id does not match the attempt parent")
  checkDigest r.promptArtifactSha256 "prompt_artifact_sha256"
  checkDigest r.generationConfigSha256 "generation_config_sha256"
  r.responseArtifactSha256.elim (.ok ()) (fun v => checkDigest v "response_artifact_sha256")
  checkRevisionIds r.finalAllowedRevisionIds "final_allowed_revision_ids"
  checkRevisionIds r.finalBlockedRevisionIds "final_blocked_revision_ids"
  raiseIf (∃ id ∈ r.finalAllowedRevisionIds, id ∈ r.finalBlockedRevisionIds)
    (invalidAttemptEvent "final revision sets must be disjoint")
  r.inputTokens.elim (.ok ()) (fun n => checkCount n "input_tokens")
  r.outputTokens.elim (.ok ()) (fun n => checkCount n "output_tokens")
  checkCount r.latencyMs "latency_ms"
  r.checkTimes
  raiseIf (descriptorInvalid r.attemptArtifactRef ∨ r.promptArtifactRef.mediaType ≠ promptMediaType ∨
      r.promptArtifactRef.contentSha256 ≠ r.promptArtifactSha256)
    (invalidAttemptEvent "attempt or prompt Artifact reference is invalid")
  let refs ← r.artifactRefs
  raiseIf (∃ a ∈ refs, a.retentionPolicyId ≠ retentionPolicyId ∨ a.availability ≠ .available ∨
      a.sizeBytes = 0)
    (invalidAttemptEvent "Artifact reference retention or availability is invalid")
  r.checkOutcome
  checkIdentifiers (r.errorCode.toList.map (fun v => (v, "error_code")))

def fields (r : AttemptEventRef) : Fields :=
  [(lit "contract_version", .str attemptContractVersion), (lit "attempt_id", .str r.attemptId),
    (lit "stream_id", .str r.streamId), (lit "session_id", .str r.sessionId),
    (lit "retrieval_snapshot_id", .str r.retrievalSnapshotId),
    (lit "system_gate_evaluation_id", .str r.systemGateEvaluationId),
    (lit "sequence", jsonInt r.sequence),
    (lit "previous_attempt_id", jsonOptional r.previousAttemptId),
    (lit "provider_id", .str r.providerId), (lit "model_id", .str r.modelId),
    (lit "model_version", .str r.modelVersion), (lit "endpoint_id", jsonOptional r.endpointId),
    (lit "prompt_template_id", .str r.promptTemplateId),
    (lit "prompt_template_version", .str r.promptTemplateVersion),
    (lit "prompt_artifact_sha256", .str r.promptArtifactSha256),
    (lit "response_artifact_sha256", jsonOptional r.responseArtifactSha256),
    (lit "generation_config_sha256", .str r.generationConfigSha256),
    (lit "provider_request_id", jsonOptional r.providerRequestId), (lit "status", .str r.status.text),
    (lit "decision_id", jsonOptional r.decisionId),
    (lit "final_allowed_revision_ids", AttemptContent.jsonTexts r.finalAllowedRevisionIds),
    (lit "final_blocked_revision_ids", AttemptContent.jsonTexts r.finalBlockedRevisionIds),
    (lit "risk", jsonOptional (r.risk.map SemanticRisk.text)),
    (lit "recommended_injection", jsonOptional (r.recommendedInjection.map RecommendedInjection.text)),
    (lit "error_code", jsonOptional r.errorCode),
    (lit "input_tokens", AttemptContent.jsonNumber r.inputTokens),
    (lit "output_tokens", AttemptContent.jsonNumber r.outputTokens),
    (lit "latency_ms", jsonInt r.latencyMs), (lit "started_at", .str r.startedAt),
    (lit "finished_at", .str r.finishedAt),
    (lit "attempt_artifact_id", .str r.attemptArtifactRef.artifactId),
    (lit "attempt_content_sha256", .str r.attemptArtifactRef.contentSha256),
    (lit "prompt_artifact_id", .str r.promptArtifactRef.artifactId),
    (lit "response_artifact_id", jsonOptional (r.responseArtifactRef.map EventArtifactRef.artifactId)),
    (lit "causation_event_id", .str r.causationEventId)]

end AttemptEventRef

def attemptEventFields : List Str :=
  [lit "contract_version", lit "attempt_id", lit "stream_id", lit "session_id",
    lit "retrieval_snapshot_id", lit "system_gate_evaluation_id", lit "sequence",
    lit "previous_attempt_id", lit "provider_id", lit "model_id", lit "model_version",
    lit "endpoint_id", lit "prompt_template_id", lit "prompt_template_version",
    lit "prompt_artifact_sha256", lit "response_artifact_sha256", lit "generation_config_sha256",
    lit "provider_request_id", lit "status", lit "decision_id", lit "final_allowed_revision_ids",
    lit "final_blocked_revision_ids", lit "risk", lit "recommended_injection", lit "error_code",
    lit "input_tokens", lit "output_tokens", lit "latency_ms", lit "started_at", lit "finished_at",
    lit "attempt_artifact_id", lit "attempt_content_sha256", lit "prompt_artifact_id",
    lit "response_artifact_id", lit "causation_event_id"]

end References

section Reading

def attemptText (fields : Fields) (name : String) : Except GateError Str :=
  match valueAt fields (lit name) with
  | .str value => .ok value
  | _ => .error (invalidAttemptEvent (name ++ " is invalid"))

def optionalAttemptText (fields : Fields) (name : String) : Except GateError (Option Str) :=
  match valueAt fields (lit name) with
  | .null => .ok none
  | .str value => .ok (some value)
  | _ => .error (invalidAttemptEvent (name ++ " is invalid"))

def attemptNumber (fields : Fields) (name : String) : Except GateError Nat :=
  match valueAt fields (lit name) with
  | .num (.int (.ofNat n)) => .ok n
  | _ => .error (invalidAttemptEvent (name ++ " is invalid"))

def optionalAttemptNumber (fields : Fields) (name : String) : Except GateError (Option Nat) :=
  match valueAt fields (lit name) with
  | .null => .ok none
  | .num (.int (.ofNat n)) => .ok (some n)
  | _ => .error (invalidAttemptEvent (name ++ " is invalid"))

def attemptTexts (fields : Fields) (name : String) : Except GateError (List Str) :=
  match valueAt fields (lit name) with
  | .arr items => demand (GateEvents.strings? items) (invalidAttemptEvent (name ++ " is invalid"))
  | _ => .error (invalidAttemptEvent (name ++ " is invalid"))

def attemptMember {α : Type} (values : List α) (text : α → Str) (fields : Fields) (name : String)
    (e : GateError) : Except GateError α := do
  let value ← attemptText fields name
  demand (values.find? (fun a => decide (text a = value))) e

def optionalAttemptMember {α : Type} (values : List α) (text : α → Str) (fields : Fields)
    (name : String) (e : GateError) : Except GateError (Option α) :=
  match valueAt fields (lit name) with
  | .null => .ok none
  | .str value => do
    let a ← demand (values.find? (fun a => decide (text a = value))) e
    return some a
  | _ => .error e

def attemptRefNamed (refs : List EventArtifactRef) (id : Str) : Option EventArtifactRef :=
  refs.find? (fun a => decide (a.artifactId = id))

def outcomeInvalid (status : AttemptStatus) : GateError :=
  match status with
  | .succeeded => invalidAttemptEvent "succeeded attempt event fields are invalid"
  | .failed => invalidAttemptEvent "failed attempt event fields are invalid"

-- A field of the wrong type is refused with the message of its own check.
def readAttemptRef (refs : List EventArtifactRef) (fields : Fields) : Except GateError AttemptEventRef := do
  let attemptArtifactId ← attemptText fields "attempt_artifact_id"
  let promptArtifactId ← attemptText fields "prompt_artifact_id"
  let responseArtifactId ← optionalAttemptText fields "response_artifact_id"
  let attemptArtifactRef ← demand (attemptRefNamed refs attemptArtifactId)
    (invalidAttemptEvent "attempt or prompt Artifact reference is absent")
  let promptArtifactRef ← demand (attemptRefNamed refs promptArtifactId)
    (invalidAttemptEvent "attempt or prompt Artifact reference is absent")
  let finalAllowedRevisionIds ← attemptTexts fields "final_allowed_revision_ids"
  let finalBlockedRevisionIds ← attemptTexts fields "final_blocked_revision_ids"
  let attemptId ← attemptText fields "attempt_id"
  let streamId ← attemptText fields "stream_id"
  let sessionId ← attemptText fields "session_id"
  let retrievalSnapshotId ← attemptText fields "retrieval_snapshot_id"
  let systemGateEvaluationId ← attemptText fields "system_gate_evaluation_id"
  let sequence ← attemptNumber fields "sequence"
  let previousAttemptId ← optionalAttemptText fields "previous_attempt_id"
  let providerId ← attemptText fields "provider_id"
  let modelId ← attemptText fields "model_id"
  let modelVersion ← attemptText fields "model_version"
  let endpointId ← optionalAttemptText fields "endpoint_id"
  let promptTemplateId ← attemptText fields "prompt_template_id"
  let promptTemplateVersion ← attemptText fields "prompt_template_version"
  let promptArtifactSha256 ← attemptText fields "prompt_artifact_sha256"
  let responseArtifactSha256 ← optionalAttemptText fields "response_artifact_sha256"
  let generationConfigSha256 ← attemptText fields "generation_config_sha256"
  let providerRequestId ← optionalAttemptText fields "provider_request_id"
  let status ← attemptMember [.succeeded, .failed] AttemptStatus.text fields "status"
    (invalidAttemptEvent "status is invalid")
  let decisionId ← optionalAttemptText fields "decision_id"
  let risk ← optionalAttemptMember [.low, .medium, .high, .unknown] SemanticRisk.text fields "risk"
    (outcomeInvalid status)
  let recommendedInjection ← optionalAttemptMember [.nothing, .summary, .full]
    RecommendedInjection.text fields "recommended_injection" (outcomeInvalid status)
  let errorCode ← optionalAttemptText fields "error_code"
  let inputTokens ← optionalAttemptNumber fields "input_tokens"
  let outputTokens ← optionalAttemptNumber fields "output_tokens"
  let latencyMs ← attemptNumber fields "latency_ms"
  let startedAt ← attemptText fields "started_at"
  let finishedAt ← attemptText fields "finished_at"
  let causationEventId ← attemptText fields "causation_event_id"
  return {
    attemptId, streamId, sessionId, retrievalSnapshotId, systemGateEvaluationId, sequence,
    previousAttemptId, providerId, modelId, modelVersion, endpointId, promptTemplateId,
    promptTemplateVersion, promptArtifactSha256, responseArtifactSha256, generationConfigSha256,
    providerRequestId, status, decisionId, finalAllowedRevisionIds, finalBlockedRevisionIds, risk,
    recommendedInjection, errorCode, inputTokens, outputTokens, latencyMs, startedAt, finishedAt,
    attemptArtifactRef, promptArtifactRef, causationEventId,
    responseArtifactRef := responseArtifactId.bind (attemptRefNamed refs) }

def attemptEnvelopeInvalid (e : EventEnvelope) : Prop :=
  e.eventVersion ≠ 1 ∨ e.eventKind ≠ .domain ∨ e.origin ≠ .native ∨ e.source ≠ none ∨
    e.streamType ≠ attemptStreamType ∨ e.payloadSchema ≠ e.eventType ++ lit ".v1" ∨
    e.classification ≠ .internal ∨ e.retentionPolicyId ≠ retentionPolicyId ∨
    ¬(1 ≤ e.artifactRefs.length ∧ e.artifactRefs.length ≤ 3)

instance decidableAttemptEnvelopeInvalid (e : EventEnvelope) : Decidable (attemptEnvelopeInvalid e) :=
  inferInstanceAs (Decidable (_ ∨ _))

variable (sha : Sha256)

def attemptCommandSha256 (r : AttemptEventRef) (authorizationDecisionId : Str) : Str :=
  sha.domain (lit "tbm.semantic-gate-attempt-event-command.v1\x00")
    (.obj [(lit "payload", .obj r.fields),
      (lit "authorization_decision_id", .str authorizationDecisionId)])

def attemptCorrelationId (sessionId : Str) : Str :=
  lit "semantic_gate_correlation_" ++
    (removeTag (sha.domain (lit "tbm.semantic-gate-attempt-event-correlation.v1\x00")
      (.obj [(lit "session_id", .str sessionId)]))).take 40

def attemptRequestId (attemptId : Str) : Str :=
  lit "semantic_attempt_request_" ++ (removeTag (attemptIdentitySha256 sha attemptId)).take 40

def verifyAttemptEnvelope (e : EventEnvelope) (r : AttemptEventRef) : Except GateError Unit := do
  let eventId ← attemptEventId sha r.attemptId
  raiseIf (e.eventId ≠ eventId ∨ e.idempotencyKeySha256 ≠ attemptIdentitySha256 sha r.attemptId ∨
      e.requestId ≠ attemptRequestId sha r.attemptId ∨
      e.requestSha256 ≠ attemptCommandSha256 sha r e.authorizationDecisionId ∨
      e.correlationId ≠ attemptCorrelationId sha r.sessionId ∨ e.producer ≠ producerName ∨
      e.producerVersion ≠ producerVersionText)
    (invalidAttemptEvent "Semantic Gate attempt deterministic envelope is invalid")

def linkageInvalid (e : EventEnvelope) (fields : Fields) (r : AttemptEventRef) : Prop :=
  e.eventType ≠ attemptEventType r.status ∨ e.streamId ≠ r.streamId ∨ e.streamVersion ≠ r.sequence ∨
    e.causationId ≠ some r.causationEventId ∨ e.occurredAt ≠ some r.finishedAt ∨
    e.recordedAt ≠ r.finishedAt ∨
    (valueAt fields (lit "attempt_content_sha256")).pyEq
      (.str r.attemptArtifactRef.contentSha256) = false ∨
    ∃ a ∈ e.artifactRefs, a.artifactId ∉ [r.attemptArtifactRef.artifactId, r.promptArtifactRef.artifactId] ++
      (r.responseArtifactRef.map EventArtifactRef.artifactId).toList

instance decidableLinkageInvalid (e : EventEnvelope) (fields : Fields) (r : AttemptEventRef) :
    Decidable (linkageInvalid e fields r) := inferInstanceAs (Decidable (_ ∨ _))

def attemptPayload : Json → Except GateError Fields
  | .obj fields => .ok fields
  | _ => .error (invalidAttemptEvent "Semantic Gate attempt event payload is invalid")

def verifyPreviousHash (e : EventEnvelope) (r : AttemptEventRef) : Except GateError Unit :=
  if r.sequence = 1 then
    raiseIf (e.previousStreamEventSha256 ≠ none)
      (invalidAttemptEvent "first attempt event cannot have a previous hash")
  else
    raiseIf (e.previousStreamEventSha256 = none)
      (invalidAttemptEvent "retry attempt event requires a previous hash")

def parseSemanticGateAttemptEvent (e : EventEnvelope) : Except GateError AttemptEventRef := do
  raiseIf (e.eventType ∉ attemptEventTypes)
    (invalidAttemptEvent "event is not a Semantic Gate attempt event")
  raiseIf (attemptEnvelopeInvalid e)
    (invalidAttemptEvent "Semantic Gate attempt event envelope is invalid")
  let sorted ← sortedUniqueArtifactRefs e.artifactRefs
  raiseIf (e.artifactRefs ≠ sorted)
    (invalidAttemptEvent "Semantic Gate attempt Artifact references are not canonical")
  let fields ← attemptPayload e.payload
  raiseIf (keysAre fields attemptEventFields = false)
    (invalidAttemptEvent "Semantic Gate attempt event payload fields are invalid")
  raiseIf ((valueAt fields (lit "contract_version")).pyEq (.str attemptContractVersion) = false)
    (invalidAttemptEvent "Semantic Gate attempt event contract_version is invalid")
  let r ← readAttemptRef e.artifactRefs fields
  r.check sha
  raiseIf (linkageInvalid e fields r)
    (invalidAttemptEvent "Semantic Gate attempt event linkage is invalid")
  verifyPreviousHash e r
  verifyAttemptEnvelope sha e r
  return r

end Reading

end SemanticGate

end TraceBackedMemory
