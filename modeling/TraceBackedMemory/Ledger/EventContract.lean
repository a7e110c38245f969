import TraceBackedMemory.Ledger.Registry
import TraceBackedMemory.Git.Observations
import TraceBackedMemory.Foundation.JsonBounds

namespace TraceBackedMemory

open Text Raising Json OrderBy

namespace EventContract

section Fields

def invalid (message : Str) : GateError := ⟨.contract, lit "TBM_EVENT_INVALID", message⟩

def invalidJson (message : String) : GateError :=
  ⟨.contract, lit "TBM_EVENT_INVALID_JSON", lit message⟩

def nonCanonical : GateError :=
  ⟨.contract, lit "TBM_EVENT_NON_CANONICAL_JSON", lit "value cannot be encoded as finite canonical JSON"⟩

def eventUtf8 (value name : Str) : Except GateError Unit :=
  raiseIf (utf8 value = false) (invalid (name ++ lit " must be valid UTF-8"))

def identifier (value name : Str) : Except GateError Unit := do
  raiseIf (Outbox.boundedText 128 value = false) (invalid (name ++ lit " must be a bounded identifier"))
  eventUtf8 value name

def code (value name : Str) : Except GateError Unit := do
  raiseIf (Outbox.boundedText 256 value = false) (invalid (name ++ lit " must be a bounded code"))
  eventUtf8 value name

def eventId (value name : Str) : Except GateError Unit :=
  raiseIf (GitGraph.isEventId value = false) (invalid (name ++ lit " must be a canonical event identifier"))

def digest (value name : Str) : Except GateError Unit :=
  raiseIf (validDigest value = false) (invalid (name ++ lit " must be a canonical sha256 digest"))

def positiveVersion (value : Int) (name : Str) :
    Except GateError { n : Nat // 1 ≤ n ∧ n ≤ eventMaxVersion } :=
  if h : 1 ≤ value ∧ value ≤ eventMaxVersion then .ok ⟨value.toNat, by omega⟩
  else .error (invalid (name ++ lit " must be a bounded positive integer"))

def member {α : Type} (values : List α) (text : α → Str) (name : String) (value : Json) :
    Except GateError α :=
  match value with
  | .str s => demand (values.find? (fun a => decide (text a = s))) (invalid (lit name ++ lit " is not supported"))
  | _ => .error (invalid (lit name ++ lit " is not supported"))

def actorTypes : List EventActorType := [.principal, .agentClient, .service, .worker]

def eventKinds : List EventKind := [.domain, .observation]

def eventOrigins : List EventOrigin := [.native, .imported]

def classifications : List EventClassification := [.publicly, .internal, .confidential, .restricted]

def evidenceQualities : List EventEvidenceQuality :=
  [.exact, .verified, .observed, .legacyPartial, .unknown]

def artifactAvailabilities : List EventArtifactAvailability := [.available, .pending, .unavailable, .erased]

def classificationRank : EventClassification → Nat
  | .publicly => 0
  | .internal => 1
  | .confidential => 2
  | .restricted => 3

def notRfc3339 : Str := lit "value must be a timezone-aware RFC 3339 date-time string"

def timestamp (value name : Str) : Except GateError Int := do
  let parsed ← demand (instant? value)
    (invalid (name ++ lit " must be a canonical RFC3339 timestamp: " ++ notRfc3339))
  -- the second reading is outside the handler, so its overflow escapes
  let canonical ← canonicalRfc3339 value
  raiseIf (canonical ≠ value) (invalid (name ++ lit " must be canonical RFC3339"))
  return parsed

def canonicalTimestamp (value name : Str) : Except GateError Str :=
  match canonicalRfc3339 value with
  | .ok canonical => .ok canonical
  | .error e =>
    .error (if e.fault = .overflow then e
      else invalid (name ++ lit " must be an RFC3339 timestamp: " ++ notRfc3339))

end Fields

section Parts

def newSource (sourceSystem sourceRecordId : Str) (evidenceQuality : Json) (observedAt : Str) :
    Except GateError EventSource := do
  identifier sourceSystem (lit "source_system")
  identifier sourceRecordId (lit "source_record_id")
  let quality ← member evidenceQualities EventEvidenceQuality.text "evidence_quality" evidenceQuality
  let _ ← timestamp observedAt (lit "observed_at")
  return ⟨sourceSystem, sourceRecordId, quality, observedAt⟩

def artifactMaxBytes : Nat := 64 * 1024 * 1024

structure ArtifactFields where
  artifactId : Str
  contentSha256 : Str
  mediaType : Str
  sizeBytes : Int
  classification : Json
  retentionPolicyId : Str
  encryptionKeyId : Option Str
  availability : Json

def newArtifactRef (f : ArtifactFields) : Except GateError EventArtifactRef := do
  digest f.contentSha256 (lit "content_sha256")
  raiseIf (GitGraph.isArtifactId f.artifactId = false ∨
      f.artifactId ≠ lit "artifact_sha256_" ++ f.contentSha256.drop 7)
    (invalid (lit "artifact_id must be derived from content_sha256"))
  code f.mediaType (lit "media_type")
  raiseIf (¬(0 ≤ f.sizeBytes ∧ f.sizeBytes ≤ artifactMaxBytes))
    (invalid (lit "size_bytes must be a bounded non-negative integer"))
  let classification ← member classifications EventClassification.text "classification" f.classification
  identifier f.retentionPolicyId (lit "retention_policy_id")
  f.encryptionKeyId.elim (.ok ()) (fun k => identifier k (lit "encryption_key_id"))
  raiseIf (2 ≤ classificationRank classification ∧ f.encryptionKeyId = none)
    (invalid (lit "protected artifact references require encryption_key_id"))
  let availability ← member artifactAvailabilities EventArtifactAvailability.text "availability" f.availability
  return {
    artifactId := f.artifactId, contentSha256 := f.contentSha256, mediaType := f.mediaType,
    sizeBytes := f.sizeBytes.toNat, classification, retentionPolicyId := f.retentionPolicyId,
    encryptionKeyId := f.encryptionKeyId, availability }

def EventArtifactRef.fields (a : EventArtifactRef) : ArtifactFields :=
  ⟨a.artifactId, a.contentSha256, a.mediaType, a.sizeBytes, .str a.classification.text,
    a.retentionPolicyId, a.encryptionKeyId, .str a.availability.text⟩

-- values that came out of their constructor, as every caller passes them
abbrev Source :=
  { s : EventSource //
    newSource s.sourceSystem s.sourceRecordId (.str s.evidenceQuality.text) s.observedAt = .ok s }

abbrev ArtifactRef := { a : EventArtifactRef // newArtifactRef (EventArtifactRef.fields a) = .ok a }

end Parts

section Envelopes

structure TextHash where
  hexdigest : Str → Str
  length_hexdigest : ∀ s, (hexdigest s).length = 64
  hex_hexdigest : ∀ s, (hexdigest s).all isLowerHex = true

-- the digest of the UTF-8 canonical text behind its domain
def TextHash.canonical (hash : TextHash) (codec : FloatCodec) : Sha256 where
  hexdigest domain value := hash.hexdigest (domain ++ canonicalText codec.repr value)
  length_hexdigest _ _ := hash.length_hexdigest _
  hex_hexdigest _ _ := hash.hex_hexdigest _

-- a mapping has one value for each key, at every level
abbrev Mapping := { v : Json // shaped distinct (fun _ => true) (fun _ => true) v = true }

structure EventFields where
  protocolVersion : Str
  eventId : Str
  eventSha256 : Str
  eventType : Str
  eventVersion : Int
  eventKind : Json
  origin : Json
  source : Option Source
  streamId : Str
  streamType : Str
  streamVersion : Int
  globalPosition : Int
  organizationId : Str
  tenantId : Str
  repositoryId : Str
  environmentId : Str
  principalId : Str
  agentClientId : Str
  actorType : Json
  actorId : Str
  authorizationDecisionId : Str
  requestId : Str
  idempotencyKeySha256 : Str
  requestSha256 : Str
  correlationId : Str
  causationId : Option Str
  occurredAt : Option Str
  recordedAt : Str
  producer : Str
  producerVersion : Str
  payloadSchema : Str
  payloadSha256 : Str
  previousStreamEventSha256 : Option Str
  classification : Json
  retentionPolicyId : Str
  artifactRefs : List ArtifactRef
  payload : Json

def protocolVersion : Str := lit "tbm.event.v1"

def checkSource (kind : EventKind) (origin : EventOrigin) (source : Option Source) :
    Except GateError Unit := do
  raiseIf (origin = .imported ∧ source = none) (invalid (lit "imported events require source evidence"))
  raiseIf (kind = .observation ∧ source = none)
    (invalid (lit "observation events require source evidence"))
  raiseIf (origin = .native ∧ kind = .domain ∧ source ≠ none)
    (invalid (lit "native domain events cannot claim import source evidence"))

def EventFields.identifiers (f : EventFields) : List (Str × String) :=
  [(f.streamId, "stream_id"), (f.streamType, "stream_type"), (f.organizationId, "organization_id"),
    (f.tenantId, "tenant_id"), (f.repositoryId, "repository_id"), (f.environmentId, "environment_id"),
    (f.principalId, "principal_id"), (f.agentClientId, "agent_client_id"), (f.actorId, "actor_id"),
    (f.authorizationDecisionId, "authorization_decision_id"), (f.requestId, "request_id"),
    (f.correlationId, "correlation_id"), (f.retentionPolicyId, "retention_policy_id")]

def checkCausation (f : EventFields) : Except GateError Unit :=
  match f.causationId with
  | none => .ok ()
  | some causationId => do
    eventId causationId (lit "causation_id")
    raiseIf (causationId = f.eventId) (invalid (lit "causation_id cannot reference the event itself"))

def checkOccurred (f : EventFields) : Except GateError Unit :=
  match f.occurredAt with
  | none =>
    raiseIf (f.source = none) (invalid (lit "missing occurred_at requires source observation evidence"))
  | some occurredAt => do
    let _ ← timestamp occurredAt (lit "occurred_at")
    return ()

def precedes (recorded : Int) (name : String) (value : Option Str) : Except GateError Unit :=
  match value with
  | none => .ok ()
  | some text => do
    let moment ← GateSession.instant text
    raiseIf (recorded < moment) (invalid (lit name ++ lit " cannot follow recorded_at"))

def checkTimes (f : EventFields) : Except GateError Unit := do
  checkOccurred f
  let recorded ← timestamp f.recordedAt (lit "recorded_at")
  precedes recorded "occurred_at" f.occurredAt
  precedes recorded "source observed_at" (f.source.map (fun s => s.val.observedAt))

def checkPrevious (version : Nat) (previous : Option Str) :
    Except GateError { p : Option Str // version = 1 ↔ p = none } :=
  if hfirst : version = 1 then
    match previous with
    | none => .ok ⟨none, by simp [hfirst]⟩
    | some _ => .error (invalid (lit "first stream event cannot name a previous event hash"))
  else
    match previous with
    | none => .error (invalid (lit "previous_stream_event_sha256 must be a canonical sha256 digest"))
    | some value => do
      digest value (lit "previous_stream_event_sha256")
      return ⟨some value, by simp [hfirst]⟩

def maxArtifactRefs : Nat := 128

def checkArtifactRefs (refs : List EventArtifactRef) : Except GateError Unit := do
  raiseIf (maxArtifactRefs < refs.length) (invalid (lit "artifact_refs must be a bounded tuple"))
  raiseIf (¬(refs.map EventArtifactRef.artifactId).Pairwise (· < ·))
    (invalid (lit "artifact_refs must be sorted and unique"))

variable (codec : FloatCodec) (hash : TextHash)

def payloadChecked (payload : Json) : Except GateError Unit :=
  match validateEventPayload codec.repr payload with
  | .ok _ => .ok ()
  | .error e => .error ⟨.contract, e.code, e.message⟩

def eventPayloadSha256 (payload : Json) : Except GateError Str := do
  payloadChecked codec payload
  return (hash.canonical codec).domain [] payload

def signUnsigned (unsigned : Json) : Except GateError Str := do
  let _ ← demand (canonicalBytes codec.repr unsigned) nonCanonical
  return (hash.canonical codec).domain eventDomain unsigned

structure EventParts where
  eventVersion : Nat
  eventKind : EventKind
  origin : EventOrigin
  streamVersion : Nat
  globalPosition : Nat
  actorType : EventActorType
  previousStreamEventSha256 : Option Str
  classification : EventClassification
  version_bounds : 1 ≤ streamVersion ∧ streamVersion ≤ eventMaxVersion
  position_bounds : 1 ≤ globalPosition ∧ globalPosition ≤ eventMaxVersion
  first_parent : streamVersion = 1 ↔ previousStreamEventSha256 = none

def checkEnvelope (f : EventFields) : Except GateError EventParts := do
  raiseIf (f.protocolVersion ≠ protocolVersion)
    (invalid (lit "protocol_version must be " ++ protocolVersion))
  eventId f.eventId (lit "event_id")
  digest f.eventSha256 (lit "event_sha256")
  raiseIf (Projection.isEventType f.eventType = false)
    (invalid (lit "event_type must be a canonical extensible event type"))
  let eventVersion ← positiveVersion f.eventVersion (lit "event_version")
  let eventKind ← member eventKinds EventKind.text "event_kind" f.eventKind
  let origin ← member eventOrigins EventOrigin.text "origin" f.origin
  checkSource eventKind origin f.source
  checkEach (fun v => identifier v.1 (lit v.2)) f.identifiers
  let streamVersion ← positiveVersion f.streamVersion (lit "stream_version")
  let globalPosition ← positiveVersion f.globalPosition (lit "global_position")
  let actorType ← member actorTypes EventActorType.text "actor_type" f.actorType
  digest f.idempotencyKeySha256 (lit "idempotency_key_sha256")
  digest f.requestSha256 (lit "request_sha256")
  checkCausation f
  checkTimes f
  identifier f.producer (lit "producer")
  code f.producerVersion (lit "producer_version")
  raiseIf (Registry.isPayloadSchema f.payloadSchema = false)
    (invalid (lit "payload_schema must be a versioned tbm schema name"))
  digest f.payloadSha256 (lit "payload_sha256")
  let previous ← checkPrevious streamVersion.val f.previousStreamEventSha256
  let classification ← member classifications EventClassification.text "classification" f.classification
  checkArtifactRefs (f.artifactRefs.map Subtype.val)
  raiseIf (∃ a ∈ f.artifactRefs, classificationRank classification < classificationRank a.val.classification)
    (invalid (lit "event classification cannot be lower than an artifact reference"))
  return {
    eventVersion := eventVersion.val, eventKind, origin, streamVersion := streamVersion.val,
    globalPosition := globalPosition.val, actorType, previousStreamEventSha256 := previous.val,
    classification, version_bounds := streamVersion.property, position_bounds := globalPosition.property,
    first_parent := previous.property }

def EventFields.envelope (f : EventFields) (p : EventParts) : EventEnvelope where
  eventId := f.eventId
  eventType := f.eventType
  eventVersion := p.eventVersion
  eventKind := p.eventKind
  origin := p.origin
  source := f.source.map Subtype.val
  streamId := f.streamId
  streamType := f.streamType
  streamVersion := p.streamVersion
  globalPosition := p.globalPosition
  organizationId := f.organizationId
  tenantId := f.tenantId
  repositoryId := f.repositoryId
  environmentId := f.environmentId
  principalId := f.principalId
  agentClientId := f.agentClientId
  actorType := p.actorType
  actorId := f.actorId
  authorizationDecisionId := f.authorizationDecisionId
  requestId := f.requestId
  idempotencyKeySha256 := f.idempotencyKeySha256
  requestSha256 := f.requestSha256
  correlationId := f.correlationId
  causationId := f.causationId
  occurredAt := f.occurredAt
  recordedAt := f.recordedAt
  producer := f.producer
  producerVersion := f.producerVersion
  payloadSchema := f.payloadSchema
  payloadSha256 := f.payloadSha256
  previousStreamEventSha256 := p.previousStreamEventSha256
  classification := p.classification
  retentionPolicyId := f.retentionPolicyId
  artifactRefs := f.artifactRefs.map Subtype.val
  payload := f.payload

def newCanonicalEvent (f : EventFields) : Except GateError (CanonicalEvent (hash.canonical codec)) := do
  let p ← checkEnvelope f
  payloadChecked codec f.payload
  let payloadSha256 ← eventPayloadSha256 codec hash f.payload
  raiseIf (f.payloadSha256 ≠ payloadSha256)
    (invalid (lit "payload_sha256 does not match canonical payload"))
  let _ ← signUnsigned codec hash (f.envelope p).toDict
  if h : f.eventSha256 = canonicalEventSha256 (hash.canonical codec) (f.envelope p) then
    return ⟨f.envelope p, f.eventSha256, h, p.version_bounds, p.position_bounds, p.first_parent⟩
  else .error (invalid (lit "event_sha256 does not match canonical event envelope"))

end Envelopes

end EventContract

end TraceBackedMemory
