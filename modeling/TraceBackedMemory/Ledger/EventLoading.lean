import TraceBackedMemory.Ledger.EventContract
import TraceBackedMemory.Ledger.Database

namespace TraceBackedMemory

open Text Raising Json OrderBy

open GateEvents (keysAre)

namespace EventContract

variable (codec : FloatCodec) (hash : TextHash)

section Building

structure EventArguments where
  eventId : Str
  eventType : Str
  eventVersion : Int
  eventKind : Json
  origin : Json
  source : Option Source
  streamId : Str
  streamType : Str
  streamVersion : Int
  globalPosition : Int
  trustedContext : EventTrustedContext
  requestId : Str
  idempotencyKeySha256 : Str
  requestSha256 : Str
  correlationId : Str
  causationId : Option Str
  occurredAt : Option Str
  recordedAt : Str
  producer : Str
  producerVersion : Str
  payloadSchema : Str
  previousStreamEventSha256 : Option Str
  classification : Json
  retentionPolicyId : Str
  artifactRefs : List ArtifactRef
  payload : Mapping

def EventArguments.fields (a : EventArguments) (refs : List ArtifactRef) (occurredAt : Option Str)
    (recordedAt payloadSha256 eventSha256 : Str) : EventFields where
  protocolVersion := protocolVersion
  eventId := a.eventId
  eventSha256 := eventSha256
  eventType := a.eventType
  eventVersion := a.eventVersion
  eventKind := a.eventKind
  origin := a.origin
  source := a.source
  streamId := a.streamId
  streamType := a.streamType
  streamVersion := a.streamVersion
  globalPosition := a.globalPosition
  organizationId := a.trustedContext.organizationId
  tenantId := a.trustedContext.tenantId
  repositoryId := a.trustedContext.repositoryId
  environmentId := a.trustedContext.environmentId
  principalId := a.trustedContext.principalId
  agentClientId := a.trustedContext.agentClientId
  actorType := .str a.trustedContext.actorType.text
  actorId := a.trustedContext.actorId
  authorizationDecisionId := a.trustedContext.authorizationDecisionId
  requestId := a.requestId
  idempotencyKeySha256 := a.idempotencyKeySha256
  requestSha256 := a.requestSha256
  correlationId := a.correlationId
  causationId := a.causationId
  occurredAt := occurredAt
  recordedAt := recordedAt
  producer := a.producer
  producerVersion := a.producerVersion
  payloadSchema := a.payloadSchema
  payloadSha256 := payloadSha256
  previousStreamEventSha256 := a.previousStreamEventSha256
  classification := a.classification
  retentionPolicyId := a.retentionPolicyId
  artifactRefs := refs
  payload := a.payload.val

def EventFields.entries (f : EventFields) : Fields :=
  [(lit "protocol_version", .str f.protocolVersion), (lit "event_id", .str f.eventId),
    (lit "event_type", .str f.eventType), (lit "event_version", .num (.int f.eventVersion)),
    (lit "event_kind", f.eventKind), (lit "origin", f.origin),
    (lit "source", (f.source.map Subtype.val).elim .null EventSource.toDict),
    (lit "stream_id", .str f.streamId), (lit "stream_type", .str f.streamType),
    (lit "stream_version", .num (.int f.streamVersion)),
    (lit "global_position", .num (.int f.globalPosition)),
    (lit "organization_id", .str f.organizationId), (lit "tenant_id", .str f.tenantId),
    (lit "repository_id", .str f.repositoryId), (lit "environment_id", .str f.environmentId),
    (lit "principal_id", .str f.principalId), (lit "agent_client_id", .str f.agentClientId),
    (lit "actor_type", f.actorType), (lit "actor_id", .str f.actorId),
    (lit "authorization_decision_id", .str f.authorizationDecisionId),
    (lit "request_id", .str f.requestId),
    (lit "idempotency_key_sha256", .str f.idempotencyKeySha256),
    (lit "request_sha256", .str f.requestSha256), (lit "correlation_id", .str f.correlationId),
    (lit "causation_id", jsonOptional f.causationId), (lit "occurred_at", jsonOptional f.occurredAt),
    (lit "recorded_at", .str f.recordedAt), (lit "producer", .str f.producer),
    (lit "producer_version", .str f.producerVersion), (lit "payload_schema", .str f.payloadSchema),
    (lit "payload_sha256", .str f.payloadSha256),
    (lit "previous_stream_event_sha256", jsonOptional f.previousStreamEventSha256),
    (lit "classification", f.classification), (lit "retention_policy_id", .str f.retentionPolicyId),
    (lit "artifact_refs", .arr ((f.artifactRefs.map Subtype.val).map EventArtifactRef.toDict)),
    (lit "payload", f.payload)]

def EventFields.unsigned (f : EventFields) : Json := .obj f.entries

def artifactIds (refs : List ArtifactRef) : List Str := refs.map (fun a => a.val.artifactId)

def canonicalOccurred : Option Str → Except GateError (Option Str)
  | none => .ok none
  | some text => do
    let canonical ← canonicalTimestamp text (lit "occurred_at")
    return some canonical

def buildCanonicalEvent (a : EventArguments) :
    Except GateError (CanonicalEvent (hash.canonical codec)) := do
  raiseIf (maxArtifactRefs < a.artifactRefs.length)
    (invalid (lit "artifact_refs must be a bounded tuple of EventArtifactRef"))
  raiseIf (¬(artifactIds a.artifactRefs).Nodup) (invalid (lit "artifact_refs must be unique"))
  payloadChecked codec a.payload.val
  let refs := orderBy (fun r : ArtifactRef => r.val.artifactId) a.artifactRefs
  let occurredAt ← canonicalOccurred a.occurredAt
  let recordedAt ← canonicalTimestamp a.recordedAt (lit "recorded_at")
  let payloadSha256 ← eventPayloadSha256 codec hash a.payload.val
  let eventSha256 ← signUnsigned codec hash (a.fields refs occurredAt recordedAt payloadSha256 []).unsigned
  newCanonicalEvent codec hash (a.fields refs occurredAt recordedAt payloadSha256 eventSha256)

end Building

section Encoding

variable {codec hash}

def signedDict (e : CanonicalEvent (hash.canonical codec)) : Json :=
  match e.toDict with
  | .obj fields => .obj (fields ++ [(lit "event_sha256", .str e.eventSha256)])
  | value => value

def dumpsCanonicalEvent (e : CanonicalEvent (hash.canonical codec)) : Except GateError Str := do
  let _ ← demand (canonicalBytes codec.repr (signedDict e)) nonCanonical
  return canonicalText codec.repr (signedDict e)

end Encoding

section Documents

inductive JsonInput where
  | text (s : Str)
  | bytes (content : List UInt8)

def decodeUtf8 (content : List UInt8) : Option Str := (String.fromUTF8? ⟨content.toArray⟩).map lit

-- the decoder's own account of the position is left out
def scanFaultText (description : Str) : ScanFault → Str
  | .syntaxError => lit "invalid " ++ description ++ lit " JSON"
  | .duplicateKey key => description ++ lit " JSON contains duplicate object key: " ++ key
  | .nonFinite constant => description ++ lit " JSON contains non-finite number: " ++ constant
  | .integerTooLong => lit "Exceeds the limit (4300 digits) for integer string conversion"

def boundFaultText (description : Str) (bounds : JsonBounds) : BoundFault → Str
  | .depth => description ++ lit " JSON exceeds maximum depth of " ++ decimal bounds.maxDepth
  | .nodes => description ++ lit " JSON contains more than " ++ decimal bounds.maxNodes ++ lit " nodes"
  | .nonFinite => description ++ lit " JSON contains non-finite number"
  | .invalidString => description ++ lit " JSON contains an invalid Unicode string"
  | .invalidKey => description ++ lit " JSON contains an invalid Unicode key"

def jsonFaultText (description : Str) (bounds : JsonBounds) : JsonFault → Str
  | .scan fault => scanFaultText description fault
  | .bound fault => boundFaultText description bounds fault

structure DocumentPolicy where
  maxBytes : Nat
  bounds : JsonBounds
  description : Str
  contractCode : Str

def DocumentPolicy.refused (p : DocumentPolicy) (message : Str) : GateError := ⟨.contract, p.contractCode, message⟩

def decodeInput (p : DocumentPolicy) : JsonInput → Except GateError Str
  | .text s => do
    let size ← demand (encodedBytes s) (p.refused (lit "'utf-8' codec can't encode character"))
    raiseIf (p.maxBytes < size) (p.refused (p.description ++ lit " JSON exceeds byte limit"))
    return s
  | .bytes content => do
    raiseIf (p.maxBytes < content.length)
      (p.refused (p.description ++ lit " JSON exceeds maximum size of " ++ decimal p.maxBytes ++
        lit " bytes"))
    demand (decodeUtf8 content) (p.refused (lit "'utf-8' codec can't decode byte"))

def loadsDocument (p : DocumentPolicy) (data : JsonInput) : Except GateError Json := do
  let s ← decodeInput p data
  match parseBoundedJson p.bounds codec s with
  | .error fault => .error (p.refused (jsonFaultText p.description p.bounds fault))
  | .ok value => .ok value

end Documents

section Parsing

def eventPolicy : DocumentPolicy where
  maxBytes := eventJsonMaxBytes
  bounds := ⟨10000, 32⟩
  description := lit "canonical event"
  contractCode := lit "TBM_EVENT_INVALID_JSON"

def loadsObject (data : JsonInput) : Except GateError Fields := do
  match ← loadsDocument codec eventPolicy data with
  | .obj fields => .ok fields
  | _ => .error (invalid (lit "canonical event JSON must be an object"))

def strictObject (names : List String) (label message : String) (value : Json) : Except GateError Fields :=
  match value with
  | .obj fields => do
    raiseIf (keysAre fields (names.map lit) = false) (invalid (lit label ++ lit " fields do not match contract"))
    return fields
  | _ => .error (invalid (lit message))

def asStr (fields : Fields) (name : String) : Except GateError Str :=
  match valueAt fields (lit name) with
  | .str s => .ok s
  | _ => .error (invalid (lit name ++ lit " must be a string"))

def asOptionalStr (fields : Fields) (name : String) : Except GateError (Option Str) :=
  match valueAt fields (lit name) with
  | .null => .ok none
  | .str s => .ok (some s)
  | _ => .error (invalid (lit name ++ lit " must be a string or null"))

def asInt (fields : Fields) (name : String) : Except GateError Int :=
  match valueAt fields (lit name) with
  | .num (.int i) => .ok i
  | _ => .error (invalid (lit name ++ lit " must be an integer"))

def eventNames : List String :=
  ["protocol_version", "event_id", "event_type", "event_version", "event_kind", "origin", "source",
    "stream_id", "stream_type", "stream_version", "global_position", "organization_id", "tenant_id",
    "repository_id", "environment_id", "principal_id", "agent_client_id", "actor_type", "actor_id",
    "authorization_decision_id", "request_id", "idempotency_key_sha256", "request_sha256",
    "correlation_id", "causation_id", "occurred_at", "recorded_at", "producer", "producer_version",
    "payload_schema", "payload_sha256", "previous_stream_event_sha256", "classification",
    "retention_policy_id", "artifact_refs", "payload", "event_sha256"]

theorem member_text {α : Type} {values : List α} {text : α → Str} {name : String} {value : Json} {a : α}
    (h : member values text name value = .ok a) : value = .str (text a) := by
  unfold member at h
  split at h
  · have hfound := List.find?_some (demand_eq_ok.mp h)
    rw [of_decide_eq_true hfound]
  · cases h

theorem newSource_self {system record : Str} {quality : Json} {observed : Str} {s : EventSource}
    (h : newSource system record quality observed = .ok s) :
    newSource s.sourceSystem s.sourceRecordId (.str s.evidenceQuality.text) s.observedAt = .ok s := by
  have hopen := h
  simp only [newSource, bind_eq_ok, exists_unit, pure_eq_ok] at hopen
  obtain ⟨-, -, q, hq, -, -, rfl⟩ := hopen
  rw [← member_text hq]
  exact h

theorem newArtifactRef_fields {f : ArtifactFields} {a : EventArtifactRef} (h : newArtifactRef f = .ok a) :
    EventArtifactRef.fields a = f := by
  simp only [newArtifactRef, bind_eq_ok, exists_unit, raiseIf_eq_ok, pure_eq_ok, not_not] at h
  obtain ⟨-, -, -, hsize, c, hc, -, -, -, v, hv, rfl⟩ := h
  obtain ⟨artifactId, contentSha256, mediaType, sizeBytes, classification, policy, key, availability⟩ := f
  dsimp only at hsize hc hv
  have hcast : ((sizeBytes.toNat : Nat) : Int) = sizeBytes := Int.toNat_of_nonneg hsize.1
  simp only [EventArtifactRef.fields, hcast, ← member_text hc, ← member_text hv]

def parseSource (value : Json) : Except GateError Source := do
  let fields ← strictObject ["source_system", "source_record_id", "evidence_quality", "observed_at"]
    "EventSource" "source must be an object or null" value
  let system ← asStr fields "source_system"
  let record ← asStr fields "source_record_id"
  let observed ← asStr fields "observed_at"
  match h : newSource system record (valueAt fields (lit "evidence_quality")) observed with
  | .error e => .error e
  | .ok s => .ok ⟨s, newSource_self h⟩

def parseOptionalSource : Json → Except GateError (Option Source)
  | .null => .ok none
  | value => do
    let source ← parseSource value
    return some source

def artifactNames : List String :=
  ["artifact_id", "content_sha256", "media_type", "size_bytes", "classification",
    "retention_policy_id", "encryption_key_id", "availability"]

def readArtifactFields (fields : Fields) : Except GateError ArtifactFields := do
  let artifactId ← asStr fields "artifact_id"
  let contentSha256 ← asStr fields "content_sha256"
  let mediaType ← asStr fields "media_type"
  let sizeBytes ← asInt fields "size_bytes"
  let retentionPolicyId ← asStr fields "retention_policy_id"
  let encryptionKeyId ← asOptionalStr fields "encryption_key_id"
  return ⟨artifactId, contentSha256, mediaType, sizeBytes, valueAt fields (lit "classification"),
    retentionPolicyId, encryptionKeyId, valueAt fields (lit "availability")⟩

def parseArtifactRef (value : Json) : Except GateError ArtifactRef := do
  let fields ← strictObject artifactNames "EventArtifactRef" "EventArtifactRef must be an object" value
  let read ← readArtifactFields fields
  match h : newArtifactRef read with
  | .error e => .error e
  | .ok a => .ok ⟨a, by rw [newArtifactRef_fields h]; exact h⟩

def parseArtifactRefs : Json → Except GateError (List ArtifactRef)
  | .arr items => do
    raiseIf (maxArtifactRefs < items.length) (invalid (lit "artifact_refs exceeds the item limit"))
    collect parseArtifactRef items
  | _ => .error (invalid (lit "artifact_refs must be an array"))

def parsePayload : Json → Except GateError Json
  | .obj fields => .ok (.obj fields)
  | _ => .error (invalid (lit "payload must be a JSON object"))

def readEventFields (fields : Fields) (source : Option Source) (artifactRefs : List ArtifactRef)
    (payload : Json) : Except GateError EventFields := do
  let eventId ← asStr fields "event_id"
  let eventSha256 ← asStr fields "event_sha256"
  let eventType ← asStr fields "event_type"
  let eventVersion ← asInt fields "event_version"
  let streamId ← asStr fields "stream_id"
  let streamType ← asStr fields "stream_type"
  let streamVersion ← asInt fields "stream_version"
  let globalPosition ← asInt fields "global_position"
  let organizationId ← asStr fields "organization_id"
  let tenantId ← asStr fields "tenant_id"
  let repositoryId ← asStr fields "repository_id"
  let environmentId ← asStr fields "environment_id"
  let principalId ← asStr fields "principal_id"
  let agentClientId ← asStr fields "agent_client_id"
  let actorId ← asStr fields "actor_id"
  let authorizationDecisionId ← asStr fields "authorization_decision_id"
  let requestId ← asStr fields "request_id"
  let idempotencyKeySha256 ← asStr fields "idempotency_key_sha256"
  let requestSha256 ← asStr fields "request_sha256"
  let correlationId ← asStr fields "correlation_id"
  let causationId ← asOptionalStr fields "causation_id"
  let occurredAt ← asOptionalStr fields "occurred_at"
  let recordedAt ← asStr fields "recorded_at"
  let producer ← asStr fields "producer"
  let producerVersion ← asStr fields "producer_version"
  let payloadSchema ← asStr fields "payload_schema"
  let payloadSha256 ← asStr fields "payload_sha256"
  let previousStreamEventSha256 ← asOptionalStr fields "previous_stream_event_sha256"
  let retentionPolicyId ← asStr fields "retention_policy_id"
  let protocolVersion ← asStr fields "protocol_version"
  return {
    protocolVersion, eventId, eventSha256, eventType, eventVersion,
    eventKind := valueAt fields (lit "event_kind"), origin := valueAt fields (lit "origin"), source,
    streamId, streamType, streamVersion, globalPosition, organizationId, tenantId, repositoryId,
    environmentId, principalId, agentClientId, actorType := valueAt fields (lit "actor_type"), actorId,
    authorizationDecisionId, requestId, idempotencyKeySha256, requestSha256, correlationId,
    causationId, occurredAt, recordedAt, producer, producerVersion, payloadSchema, payloadSha256,
    previousStreamEventSha256, classification := valueAt fields (lit "classification"),
    retentionPolicyId, artifactRefs, payload }

def parseCanonicalEvent (value : Json) : Except GateError (CanonicalEvent (hash.canonical codec)) := do
  let fields ← strictObject eventNames "CanonicalEvent" "canonical event JSON must be an object" value
  let source ← parseOptionalSource (valueAt fields (lit "source"))
  let artifactRefs ← parseArtifactRefs (valueAt fields (lit "artifact_refs"))
  let payload ← parsePayload (valueAt fields (lit "payload"))
  let read ← readEventFields fields source artifactRefs payload
  newCanonicalEvent codec hash read

def loadsCanonicalEvent (data : JsonInput) :
    Except GateError (CanonicalEvent (hash.canonical codec)) := do
  let fields ← loadsObject codec data
  parseCanonicalEvent codec hash (.obj fields)

end Parsing

end EventContract

end TraceBackedMemory
