import TraceBackedMemory.Store.Timestamps

namespace TraceBackedMemory

open Text Raising

inductive LedgerFault where
  | eventContract
  | invalidRequest
  | conflict
  | idempotencyConflict
  | scopeDenied
  | classificationDenied
  | integrity
  | persistence
  | valueError
  | database
  deriving DecidableEq

structure LedgerError where
  fault : LedgerFault
  code : Str
  message : Str
  deriving DecidableEq

def invalidEvent (message : Str) : LedgerError := ⟨.eventContract, lit "TBM_EVENT_INVALID", message⟩

section Digests

structure Sha256 where
  hexdigest : Str → Json → Str
  length_hexdigest : ∀ d v, (hexdigest d v).length = 64
  hex_hexdigest : ∀ d v, (hexdigest d v).all isLowerHex = true

def Sha256.domain (sha : Sha256) (domain : Str) (value : Json) : Str :=
  lit "sha256:" ++ sha.hexdigest domain value

def Sha256.Separates (sha : Sha256) (used : List (Str × Json)) : Prop :=
  ∀ v ∈ used, ∀ w ∈ used, sha.hexdigest v.1 v.2 = sha.hexdigest w.1 w.2 → v = w

theorem Sha256.Separates.domain_inj {sha : Sha256} {used : List (Str × Json)}
    (h : sha.Separates used) {d d' : Str} {v v' : Json} (hv : (d, v) ∈ used) (hv' : (d', v') ∈ used)
    (heq : sha.domain d v = sha.domain d' v') : d = d' ∧ v = v' := by
  have hhex : sha.hexdigest d v = sha.hexdigest d' v' := List.append_cancel_left heq
  exact Prod.mk.inj (h _ hv _ hv' hhex)

theorem Sha256.separates_of_nodup {sha : Sha256} {values used : List (Str × Json)}
    (h : (values.map (fun v => sha.hexdigest v.1 v.2)).Nodup) (hused : ∀ v ∈ used, v ∈ values) :
    sha.Separates used :=
  fun v hv w hw heq => List.inj_on_of_nodup_map h (hused v hv) (hused w hw) heq

def jsonInt (n : Nat) : Json := .num (.int n)

def jsonOptional (s : Option Str) : Json := s.elim .null .str

theorem jsonInt_inj {m n : Nat} : jsonInt m = jsonInt n ↔ m = n := by
  simp [jsonInt]

theorem jsonOptional_inj {s t : Option Str} : jsonOptional s = jsonOptional t ↔ s = t := by
  cases s <;> cases t <;> simp [jsonOptional]

theorem json_strings_inj {l m : List Str} : l.map Json.str = m.map Json.str ↔ l = m :=
  (List.map_injective_iff.mpr fun _ _ h => Json.str.inj h).eq_iff

def validDigest (value : Str) : Bool :=
  decide (value.length = 71) && (lit "sha256:").isPrefixOf value && (value.drop 7).all isLowerHex

theorem Sha256.validDigest_domain (sha : Sha256) (d : Str) (v : Json) :
    validDigest (sha.domain d v) = true := by
  have hlength : (lit "sha256:").length = 7 := by decide
  have hdrop : (sha.domain d v).drop 7 = sha.hexdigest d v := List.drop_left' hlength
  simp only [validDigest, Bool.and_eq_true, decide_eq_true_eq, hdrop]
  refine ⟨⟨?_, ?_⟩, sha.hex_hexdigest d v⟩
  · rw [Sha256.domain, List.length_append, hlength, sha.length_hexdigest]
  · rw [List.isPrefixOf_iff_prefix]
    exact List.prefix_append _ _

end Digests

section Enumerations

inductive EventActorType where
  | principal
  | agentClient
  | service
  | worker
  deriving DecidableEq

def EventActorType.text : EventActorType → Str
  | .principal => lit "principal"
  | .agentClient => lit "agent_client"
  | .service => lit "service"
  | .worker => lit "worker"

inductive EventKind where
  | domain
  | observation
  deriving DecidableEq

def EventKind.text : EventKind → Str
  | .domain => lit "domain"
  | .observation => lit "observation"

inductive EventOrigin where
  | native
  | imported
  deriving DecidableEq

def EventOrigin.text : EventOrigin → Str
  | .native => lit "native"
  | .imported => lit "imported"

inductive EventClassification where
  | publicly
  | internal
  | confidential
  | restricted
  deriving DecidableEq

def EventClassification.text : EventClassification → Str
  | .publicly => lit "public"
  | .internal => lit "internal"
  | .confidential => lit "confidential"
  | .restricted => lit "restricted"

inductive EventEvidenceQuality where
  | exact
  | verified
  | observed
  | legacyPartial
  | unknown
  deriving DecidableEq

def EventEvidenceQuality.text : EventEvidenceQuality → Str
  | .exact => lit "exact"
  | .verified => lit "verified"
  | .observed => lit "observed"
  | .legacyPartial => lit "legacy_partial"
  | .unknown => lit "unknown"

inductive EventArtifactAvailability where
  | available
  | pending
  | unavailable
  | erased
  deriving DecidableEq

def EventArtifactAvailability.text : EventArtifactAvailability → Str
  | .available => lit "available"
  | .pending => lit "pending"
  | .unavailable => lit "unavailable"
  | .erased => lit "erased"

theorem EventActorType.text_injective : Function.Injective EventActorType.text := by
  intro a b h
  cases a <;> cases b <;> first | rfl | exact absurd h (by decide)

theorem EventKind.text_injective : Function.Injective EventKind.text := by
  intro a b h
  cases a <;> cases b <;> first | rfl | exact absurd h (by decide)

theorem EventOrigin.text_injective : Function.Injective EventOrigin.text := by
  intro a b h
  cases a <;> cases b <;> first | rfl | exact absurd h (by decide)

theorem EventClassification.text_injective : Function.Injective EventClassification.text := by
  intro a b h
  cases a <;> cases b <;> first | rfl | exact absurd h (by decide)

theorem EventEvidenceQuality.text_injective : Function.Injective EventEvidenceQuality.text := by
  intro a b h
  cases a <;> cases b <;> first | rfl | exact absurd h (by decide)

theorem EventArtifactAvailability.text_injective : Function.Injective EventArtifactAvailability.text := by
  intro a b h
  cases a <;> cases b <;> first | rfl | exact absurd h (by decide)

end Enumerations

section Events

def eventMaxVersion : Nat := 9223372036854775807

structure EventTrustedContext where
  organizationId : Str
  tenantId : Str
  repositoryId : Str
  environmentId : Str
  principalId : Str
  agentClientId : Str
  actorType : EventActorType
  actorId : Str
  authorizationDecisionId : Str
  deriving DecidableEq

structure EventSource where
  sourceSystem : Str
  sourceRecordId : Str
  evidenceQuality : EventEvidenceQuality
  observedAt : Str
  deriving DecidableEq

def EventSource.toDict (s : EventSource) : Json :=
  .obj [(lit "source_system", .str s.sourceSystem), (lit "source_record_id", .str s.sourceRecordId),
    (lit "evidence_quality", .str s.evidenceQuality.text), (lit "observed_at", .str s.observedAt)]

theorem EventSource.toDict_injective : Function.Injective EventSource.toDict := by
  rintro ⟨a₁, a₂, a₃, a₄⟩ ⟨b₁, b₂, b₃, b₄⟩ h
  simp only [toDict, Json.obj.injEq, List.cons.injEq, Prod.mk.injEq, true_and, and_true,
    Json.str.injEq, EventEvidenceQuality.text_injective.eq_iff] at h
  simp only [h]

structure EventArtifactRef where
  artifactId : Str
  contentSha256 : Str
  mediaType : Str
  sizeBytes : Nat
  classification : EventClassification
  retentionPolicyId : Str
  encryptionKeyId : Option Str
  availability : EventArtifactAvailability
  deriving DecidableEq

def EventArtifactRef.toDict (a : EventArtifactRef) : Json :=
  .obj [(lit "artifact_id", .str a.artifactId), (lit "content_sha256", .str a.contentSha256),
    (lit "media_type", .str a.mediaType), (lit "size_bytes", jsonInt a.sizeBytes),
    (lit "classification", .str a.classification.text),
    (lit "retention_policy_id", .str a.retentionPolicyId),
    (lit "encryption_key_id", jsonOptional a.encryptionKeyId),
    (lit "availability", .str a.availability.text)]

theorem EventArtifactRef.toDict_injective : Function.Injective EventArtifactRef.toDict := by
  rintro ⟨a₁, a₂, a₃, a₄, a₅, a₆, a₇, a₈⟩ ⟨b₁, b₂, b₃, b₄, b₅, b₆, b₇, b₈⟩ h
  simp only [toDict, Json.obj.injEq, List.cons.injEq, Prod.mk.injEq, true_and, and_true,
    Json.str.injEq, jsonInt_inj, jsonOptional_inj, EventClassification.text_injective.eq_iff,
    EventArtifactAvailability.text_injective.eq_iff] at h
  simp only [h]

structure EventEnvelope where
  eventId : Str
  eventType : Str
  eventVersion : Nat
  eventKind : EventKind
  origin : EventOrigin
  source : Option EventSource
  streamId : Str
  streamType : Str
  streamVersion : Nat
  globalPosition : Nat
  organizationId : Str
  tenantId : Str
  repositoryId : Str
  environmentId : Str
  principalId : Str
  agentClientId : Str
  actorType : EventActorType
  actorId : Str
  authorizationDecisionId : Str
  requestId : Str
  idempotencyKeySha256 : Str
  requestSha256 : Str
  correlationId : Str
  causationId : Option Str
  occurredAt : Option Str
  recordedAt : Str
  producer : Str
  producerVersion : Str
  payloadSchema : Str
  payloadSha256 : Str
  previousStreamEventSha256 : Option Str
  classification : EventClassification
  retentionPolicyId : Str
  artifactRefs : List EventArtifactRef
  payload : Json
  deriving DecidableEq

def EventEnvelope.toDict (e : EventEnvelope) : Json :=
  .obj [(lit "protocol_version", .str (lit "tbm.event.v1")), (lit "event_id", .str e.eventId),
    (lit "event_type", .str e.eventType), (lit "event_version", jsonInt e.eventVersion),
    (lit "event_kind", .str e.eventKind.text), (lit "origin", .str e.origin.text),
    (lit "source", e.source.elim .null EventSource.toDict), (lit "stream_id", .str e.streamId),
    (lit "stream_type", .str e.streamType), (lit "stream_version", jsonInt e.streamVersion),
    (lit "global_position", jsonInt e.globalPosition),
    (lit "organization_id", .str e.organizationId), (lit "tenant_id", .str e.tenantId),
    (lit "repository_id", .str e.repositoryId), (lit "environment_id", .str e.environmentId),
    (lit "principal_id", .str e.principalId), (lit "agent_client_id", .str e.agentClientId),
    (lit "actor_type", .str e.actorType.text), (lit "actor_id", .str e.actorId),
    (lit "authorization_decision_id", .str e.authorizationDecisionId),
    (lit "request_id", .str e.requestId),
    (lit "idempotency_key_sha256", .str e.idempotencyKeySha256),
    (lit "request_sha256", .str e.requestSha256), (lit "correlation_id", .str e.correlationId),
    (lit "causation_id", jsonOptional e.causationId),
    (lit "occurred_at", jsonOptional e.occurredAt), (lit "recorded_at", .str e.recordedAt),
    (lit "producer", .str e.producer), (lit "producer_version", .str e.producerVersion),
    (lit "payload_schema", .str e.payloadSchema), (lit "payload_sha256", .str e.payloadSha256),
    (lit "previous_stream_event_sha256", jsonOptional e.previousStreamEventSha256),
    (lit "classification", .str e.classification.text),
    (lit "retention_policy_id", .str e.retentionPolicyId),
    (lit "artifact_refs", .arr (e.artifactRefs.map EventArtifactRef.toDict)),
    (lit "payload", e.payload)]

theorem sourceDict_inj {s t : Option EventSource} :
    s.elim .null EventSource.toDict = t.elim .null EventSource.toDict ↔ s = t := by
  cases s <;> cases t
  · simp
  · simp [EventSource.toDict]
  · simp [EventSource.toDict]
  · simp [EventSource.toDict_injective.eq_iff]

theorem EventEnvelope.toDict_injective : Function.Injective EventEnvelope.toDict := by
  intro a b h
  simp only [toDict, Json.obj.injEq, List.cons.injEq, Prod.mk.injEq, true_and, and_true,
    Json.str.injEq, Json.arr.injEq, jsonInt_inj, jsonOptional_inj, sourceDict_inj,
    EventKind.text_injective.eq_iff, EventOrigin.text_injective.eq_iff,
    EventActorType.text_injective.eq_iff, EventClassification.text_injective.eq_iff,
    (List.map_injective_iff.mpr EventArtifactRef.toDict_injective).eq_iff] at h
  cases a
  cases b
  simp only [EventEnvelope.mk.injEq]
  simpa only [and_assoc] using h

def eventDomain : Str := lit "tbm.event.v1\x00"

def canonicalEventSha256 (sha : Sha256) (e : EventEnvelope) : Str := sha.domain eventDomain e.toDict

structure CanonicalEvent (sha : Sha256) extends EventEnvelope where
  eventSha256 : Str
  signed : eventSha256 = canonicalEventSha256 sha toEventEnvelope
  version_bounds : 1 ≤ streamVersion ∧ streamVersion ≤ eventMaxVersion
  position_bounds : 1 ≤ globalPosition ∧ globalPosition ≤ eventMaxVersion
  first_parent : streamVersion = 1 ↔ previousStreamEventSha256 = none
  deriving DecidableEq

variable {sha : Sha256}

theorem CanonicalEvent.eq_of_envelope {e f : CanonicalEvent sha}
    (h : e.toEventEnvelope = f.toEventEnvelope) : e = f := by
  obtain ⟨a, x, hx, _, _, _⟩ := e
  obtain ⟨b, y, hy, _, _, _⟩ := f
  have hab : a = b := h
  subst hab
  subst hx
  subst hy
  rfl

theorem CanonicalEvent.eq_of_sha256 {used : List (Str × Json)} (h : sha.Separates used)
    {e f : CanonicalEvent sha} (he : (eventDomain, e.toDict) ∈ used)
    (hf : (eventDomain, f.toDict) ∈ used) (heq : e.eventSha256 = f.eventSha256) : e = f := by
  have hdigest : sha.domain eventDomain e.toDict = sha.domain eventDomain f.toDict :=
    e.signed.symm.trans (heq.trans f.signed)
  have hdict : e.toDict = f.toDict := (h.domain_inj he hf hdigest).2
  exact CanonicalEvent.eq_of_envelope (EventEnvelope.toDict_injective hdict)

def eventInstant (s : Str) : Except LedgerError Int :=
  demand (instant? s)
    ⟨.valueError, [], lit "value must be a timezone-aware RFC 3339 date-time string"⟩

def parentFields (e p : CanonicalEvent sha) : List (Str × Str × Str) :=
  [(lit "stream_id", e.streamId, p.streamId), (lit "stream_type", e.streamType, p.streamType),
    (lit "organization_id", e.organizationId, p.organizationId),
    (lit "tenant_id", e.tenantId, p.tenantId), (lit "repository_id", e.repositoryId, p.repositoryId),
    (lit "environment_id", e.environmentId, p.environmentId)]

def verifyEventParent (e : CanonicalEvent sha) (parent : Option (CanonicalEvent sha)) :
    Except LedgerError Unit :=
  if e.streamVersion = 1 then
    raiseIf (parent.isSome = true) (invalidEvent (lit "first stream event cannot have a parent"))
  else
    match parent with
    | none => .error (invalidEvent (lit "non-first stream event requires its parent"))
    | some p => do
      raiseIf (e.previousStreamEventSha256 ≠ some p.eventSha256)
        (invalidEvent (lit "previous_stream_event_sha256 does not match parent"))
      raiseIf (e.streamVersion ≠ p.streamVersion + 1)
        (invalidEvent (lit "stream_version must advance by one"))
      raiseIf (e.globalPosition ≤ p.globalPosition)
        (invalidEvent (lit "global_position must advance after parent"))
      checkEach (fun f => raiseIf (f.2.1 ≠ f.2.2)
        (invalidEvent (lit "parent " ++ f.1 ++ lit " does not match"))) (parentFields e p)
      let recorded ← eventInstant e.recordedAt
      let previous ← eventInstant p.recordedAt
      raiseIf (recorded < previous) (invalidEvent (lit "recorded_at precedes parent"))

def trustedFields (e : CanonicalEvent sha) (c : EventTrustedContext) : List (Str × Str × Str) :=
  [(lit "organization_id", e.organizationId, c.organizationId),
    (lit "tenant_id", e.tenantId, c.tenantId), (lit "repository_id", e.repositoryId, c.repositoryId),
    (lit "environment_id", e.environmentId, c.environmentId),
    (lit "principal_id", e.principalId, c.principalId),
    (lit "agent_client_id", e.agentClientId, c.agentClientId),
    (lit "actor_type", e.actorType.text, c.actorType.text), (lit "actor_id", e.actorId, c.actorId),
    (lit "authorization_decision_id", e.authorizationDecisionId, c.authorizationDecisionId)]

def verifyEventTrustedContext (e : CanonicalEvent sha) (c : EventTrustedContext) :
    Except LedgerError Unit :=
  checkEach (fun f => raiseIf (f.2.1 ≠ f.2.2)
    (invalidEvent (lit "trusted context " ++ f.1 ++ lit " does not match event"))) (trustedFields e c)

end Events

end TraceBackedMemory
