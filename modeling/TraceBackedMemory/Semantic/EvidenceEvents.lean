import TraceBackedMemory.Semantic.Artifacts
import TraceBackedMemory.Projection.Reducer

namespace TraceBackedMemory

open Text Raising

open GateEvents (keysAre removeTag producerName producerVersionText)

open Json (Fields valueAt)

namespace SemanticGate

section Evidence

def invalidEvidence (message : String) : GateError :=
  ⟨.contract, lit "TBM_GATE_EVIDENCE_EVENT_INVALID", lit message⟩

def retrievalPreparedEvent : Str := lit "tbm.retrieval.prepared"

def systemGateEvaluatedEvent : Str := lit "tbm.system_gate.evaluated"

inductive EvidenceKind where
  | retrievalSnapshot | systemGateEvaluation
  deriving DecidableEq

def EvidenceKind.text : EvidenceKind → Str
  | .retrievalSnapshot => lit "retrieval_snapshot"
  | .systemGateEvaluation => lit "system_gate_evaluation"

def evidenceKind? (eventType : Str) : Option EvidenceKind :=
  if eventType = retrievalPreparedEvent then some .retrievalSnapshot
  else if eventType = systemGateEvaluatedEvent then some .systemGateEvaluation
  else none

structure GateEvidenceRecordRef where
  evidenceKind : EvidenceKind
  recordId : Str
  sessionId : Str
  authorizationEventId : Str
  retrievalSnapshotId : Option Str
  artifactRef : EventArtifactRef
  occurredAt : Str
  causationEventId : Option Str
  deriving DecidableEq

namespace GateEvidenceRecordRef

def checkCausation (r : GateEvidenceRecordRef) : Except GateError Unit :=
  match r.evidenceKind with
  | .retrievalSnapshot =>
    raiseIf (r.retrievalSnapshotId ≠ none ∨ r.causationEventId ≠ none)
      (invalidEvidence "retrieval evidence cannot name a parent or causation")
  | .systemGateEvaluation =>
    raiseIf (r.retrievalSnapshotId = none ∨ r.causationEventId = none)
      (invalidEvidence "System Gate evidence must name retrieval causation")

def check (r : GateEvidenceRecordRef) : Except GateError Unit := do
  r.checkCausation
  checkEach (fun f : Str × String => raiseIf (isBoundedIdentifier f.1 = false)
      (invalidEvidence (f.2 ++ " is invalid")))
    ([(r.recordId, "record_id"), (r.sessionId, "session_id"),
      (r.authorizationEventId, "authorization_event_id")] ++
      r.retrievalSnapshotId.toList.map (fun v => (v, "retrieval_snapshot_id")) ++
      r.causationEventId.toList.map (fun v => (v, "causation_event_id")))
  raiseIf (r.occurredAt = []) (invalidEvidence "occurred_at is invalid")

def fields (r : GateEvidenceRecordRef) : Fields :=
  [(lit "contract_version", .str (lit "tbm.gate-evidence-event.v1")),
    (lit "evidence_kind", .str r.evidenceKind.text), (lit "record_id", .str r.recordId),
    (lit "session_id", .str r.sessionId),
    (lit "authorization_event_id", .str r.authorizationEventId),
    (lit "retrieval_snapshot_id", jsonOptional r.retrievalSnapshotId),
    (lit "artifact_id", .str r.artifactRef.artifactId),
    (lit "content_sha256", .str r.artifactRef.contentSha256),
    (lit "occurred_at", .str r.occurredAt),
    (lit "causation_event_id", jsonOptional r.causationEventId)]

end GateEvidenceRecordRef

def evidenceFields : List Str :=
  [lit "contract_version", lit "evidence_kind", lit "record_id", lit "session_id",
    lit "authorization_event_id", lit "retrieval_snapshot_id", lit "artifact_id",
    lit "content_sha256", lit "occurred_at", lit "causation_event_id"]

def evidenceEnvelopeInvalid (e : EventEnvelope) : Prop :=
  e.eventVersion ≠ 1 ∨ e.eventKind ≠ .domain ∨ e.origin ≠ .native ∨ e.source ≠ none ∨
    e.streamType ≠ lit "gate_evidence" ∨ e.streamVersion ≠ 1 ∨ e.previousStreamEventSha256 ≠ none ∨
    e.payloadSchema ≠ e.eventType ++ lit ".v1" ∨ e.classification ≠ .internal ∨
    e.retentionPolicyId ≠ GateEvents.retentionPolicyId ∨ e.artifactRefs.length ≠ 1

instance decidableEvidenceEnvelopeInvalid (e : EventEnvelope) : Decidable (evidenceEnvelopeInvalid e) :=
  inferInstanceAs (Decidable (_ ∨ _))

def evidenceLinkage (e : EventEnvelope) (kind : EvidenceKind) : Fields :=
  [(lit "contract_version", .str (lit "tbm.gate-evidence-event.v1")),
    (lit "evidence_kind", .str kind.text), (lit "record_id", .str e.streamId),
    (lit "authorization_event_id", .str e.authorizationDecisionId),
    (lit "occurred_at", jsonOptional e.occurredAt), (lit "causation_event_id", jsonOptional e.causationId)]

def evidenceArtifactInvalid (a : EventArtifactRef) (fields : Fields) : Prop :=
  (valueAt fields (lit "artifact_id")).pyEq (.str a.artifactId) = false ∨
    (valueAt fields (lit "content_sha256")).pyEq (.str a.contentSha256) = false ∨
    a.mediaType ≠ lit "application/json" ∨ a.sizeBytes = 0 ∨ a.classification ≠ .internal ∨
    a.retentionPolicyId ≠ GateEvents.retentionPolicyId ∨ a.encryptionKeyId ≠ none ∨
    a.availability ≠ .available

instance decidableEvidenceArtifactInvalid (a : EventArtifactRef) (fields : Fields) :
    Decidable (evidenceArtifactInvalid a fields) := inferInstanceAs (Decidable (_ ∨ _))

def evidenceText (fields : Fields) (name : String) : Except GateError Str :=
  match valueAt fields (lit name) with
  | .str value => .ok value
  | _ => .error (invalidEvidence (name ++ " is invalid"))

def optionalEvidenceText (fields : Fields) (name : String) : Except GateError (Option Str) :=
  match valueAt fields (lit name) with
  | .null => .ok none
  | .str value => .ok (some value)
  | _ => .error (invalidEvidence (name ++ " is invalid"))

def readEvidenceRef (kind : EvidenceKind) (artifactRef : EventArtifactRef) (fields : Fields) :
    Except GateError GateEvidenceRecordRef := do
  let recordId ← evidenceText fields "record_id"
  let sessionId ← evidenceText fields "session_id"
  let authorizationEventId ← evidenceText fields "authorization_event_id"
  let retrievalSnapshotId ← optionalEvidenceText fields "retrieval_snapshot_id"
  let occurredAt ← evidenceText fields "occurred_at"
  let causationEventId ← optionalEvidenceText fields "causation_event_id"
  let r : GateEvidenceRecordRef := ⟨kind, recordId, sessionId, authorizationEventId,
    retrievalSnapshotId, artifactRef, occurredAt, causationEventId⟩
  r.check
  return r

variable (sha : Sha256)

def evidenceIdentitySha256 (eventType recordId : Str) : Str :=
  sha.domain (lit "tbm.gate-evidence-event-identity.v1\x00")
    (.obj [(lit "event_type", .str eventType), (lit "record_id", .str recordId)])

def gateEvidenceEventId (eventType recordId : Str) : Str :=
  lit "evt_evidence_" ++ removeTag (evidenceIdentitySha256 sha eventType recordId)

def evidenceCommandSha256 (eventType : Str) (r : GateEvidenceRecordRef) : Str :=
  sha.domain (lit "tbm.gate-evidence-event-command.v1\x00")
    (.obj [(lit "event_type", .str eventType), (lit "payload", .obj r.fields),
      (lit "authorization_event_id", .str r.authorizationEventId)])

def evidenceCorrelationId (sessionId : Str) : Str :=
  lit "gate_evidence_correlation_" ++
    (removeTag (sha.domain (lit "tbm.gate-evidence-event-correlation.v1\x00")
      (.obj [(lit "session_id", .str sessionId)]))).take 40

def verifyEvidenceEnvelope (e : EventEnvelope) (r : GateEvidenceRecordRef) : Except GateError Unit := do
  let identity := evidenceIdentitySha256 sha e.eventType r.recordId
  raiseIf (e.eventId ≠ gateEvidenceEventId sha e.eventType r.recordId ∨
      e.idempotencyKeySha256 ≠ identity ∨
      e.requestId ≠ lit "evidence_request_" ++ (removeTag identity).take 48 ∨
      e.requestSha256 ≠ evidenceCommandSha256 sha e.eventType r ∨
      e.correlationId ≠ evidenceCorrelationId sha r.sessionId ∨ e.recordedAt ≠ r.occurredAt ∨
      e.producer ≠ producerName ∨ e.producerVersion ≠ producerVersionText)
    (invalidEvidence "Gate evidence event deterministic envelope is invalid")

def evidencePayload : Json → Except GateError Fields
  | .obj fields => .ok fields
  | _ => .error (invalidEvidence "Gate evidence event payload is invalid")

def parseGateEvidenceEvent (e : EventEnvelope) : Except GateError GateEvidenceRecordRef := do
  let kind ← demand (evidenceKind? e.eventType) (invalidEvidence "event is not a Gate evidence event")
  let artifactRef ← demand e.artifactRefs.head?
    (invalidEvidence "Gate evidence event envelope is invalid")
  raiseIf (evidenceEnvelopeInvalid e) (invalidEvidence "Gate evidence event envelope is invalid")
  let fields ← evidencePayload e.payload
  raiseIf (keysAre fields evidenceFields = false)
    (invalidEvidence "Gate evidence event payload fields are invalid")
  raiseIf (∃ field ∈ evidenceLinkage e kind, (valueAt fields field.1).pyEq field.2 = false)
    (invalidEvidence "Gate evidence event linkage is invalid")
  raiseIf (evidenceArtifactInvalid artifactRef fields)
    (invalidEvidence "Gate evidence event Artifact reference is invalid")
  let r ← readEvidenceRef kind artifactRef fields
  verifyEvidenceEnvelope sha e r
  return r

end Evidence

section Parsed

variable {sha : Sha256}

structure EvidenceParsed (sha : Sha256) (e : EventEnvelope) (r : GateEvidenceRecordRef) : Prop where
  kind : evidenceKind? e.eventType = some r.evidenceKind
  eventId : e.eventId = gateEvidenceEventId sha e.eventType r.recordId

theorem evidenceParsed_of_ok {e : EventEnvelope} {r : GateEvidenceRecordRef}
    (h : parseGateEvidenceEvent sha e = .ok r) : EvidenceParsed sha e r := by
  simp only [parseGateEvidenceEvent, readEvidenceRef, verifyEvidenceEnvelope, bind_eq_ok, exists_unit,
    demand_eq_ok, raiseIf_eq_ok, pure_eq_ok, not_or, ne_eq, not_not] at h
  obtain ⟨kind, hkind, artifactRef, -, -, fields, -, -, -, -, r', ⟨_, -, _, -, _, -, _, -, _, -, _, -, -,
    rfl⟩, hid, rfl⟩ := h
  exact ⟨hkind, hid.1⟩

end Parsed

end SemanticGate

end TraceBackedMemory
