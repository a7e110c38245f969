import TraceBackedMemory.Semantic.AttemptEvents
import TraceBackedMemory.Gate.SessionRevisions

namespace TraceBackedMemory

open Text Raising Replay

open GateEvents (removeTag producerName producerVersionText retentionPolicyId buildCanonicalEvent)

open Json (Fields valueAt)

namespace SemanticGate

variable {sha : Sha256} {hash : ContentHash}

section Building

def descriptorArtifactRef (sha : Sha256) (document : Json) : EventArtifactRef where
  artifactId := artifactIdFromSha256 (sha.domain [] document)
  contentSha256 := sha.domain [] document
  mediaType := lit "application/json"
  sizeBytes := (encodedBytes (Projection.stateText document)).getD 0
  classification := .internal
  retentionPolicyId := retentionPolicyId
  encryptionKeyId := none
  availability := .available

def contentArtifactRef (a : ContentAddressedArtifact) : EventArtifactRef where
  artifactId := a.artifactId
  contentSha256 := a.contentSha256
  mediaType := a.mediaType
  sizeBytes := a.sizeBytes
  classification := a.classification
  retentionPolicyId := retentionPolicyId
  encryptionKeyId := a.encryptionKeyId
  availability := .available

def causationEventId (a : SemanticGateAttempt sha) : Except GateError Str :=
  if a.sequence = 1 then systemGateEventId sha a.systemGateEvaluationId
  else attemptEventId sha (a.previousAttemptId.getD [])

def verifiedBundle (b : BundleFields sha hash) :
    Except GateError (StoredSemanticGateAttemptArtifacts sha hash) :=
  match b.accept with
  | .ok bundle => .ok bundle
  | .error _ => .error (invalidAttemptEvent "attempt Artifact bundle is invalid")

def attemptRefFields (b : BundleFields sha hash) (causationEventId streamId : Str) :
    AttemptEventRef where
  attemptId := b.attempt.attemptId
  streamId := streamId
  sessionId := b.attempt.sessionId
  retrievalSnapshotId := b.attempt.retrievalSnapshotId
  systemGateEvaluationId := b.attempt.systemGateEvaluationId
  sequence := b.attempt.sequence
  previousAttemptId := b.attempt.previousAttemptId
  providerId := b.attempt.providerId
  modelId := b.attempt.modelId
  modelVersion := b.attempt.modelVersion
  endpointId := b.attempt.endpointId
  promptTemplateId := b.attempt.promptTemplateId
  promptTemplateVersion := b.attempt.promptTemplateVersion
  promptArtifactSha256 := b.attempt.promptArtifactSha256
  responseArtifactSha256 := b.attempt.responseArtifactSha256
  generationConfigSha256 := b.attempt.generationConfigSha256
  providerRequestId := b.attempt.providerRequestId
  status := b.attempt.status
  decisionId := b.attempt.decisionId
  finalAllowedRevisionIds := b.attempt.finalAllowedRevisionIds
  finalBlockedRevisionIds := b.attempt.finalBlockedRevisionIds
  risk := b.attempt.risk
  recommendedInjection := b.attempt.recommendedInjection
  errorCode := b.attempt.errorCode
  inputTokens := b.attempt.inputTokens
  outputTokens := b.attempt.outputTokens
  latencyMs := b.attempt.latencyMs
  startedAt := b.attempt.startedAt.text
  finishedAt := b.attempt.finishedAt.text
  attemptArtifactRef := descriptorArtifactRef sha b.attempt.toDict
  promptArtifactRef := contentArtifactRef b.prompt.binding.artifact
  responseArtifactRef := b.response.map (fun s => contentArtifactRef s.binding.artifact)
  causationEventId := causationEventId

def semanticGateAttemptEventRef (b : BundleFields sha hash) : Except GateError AttemptEventRef := do
  let _ ← verifiedBundle b
  let causation ← causationEventId b.attempt
  let streamId ← attemptStreamId sha b.attempt.systemGateEvaluationId
  let r := attemptRefFields b causation streamId
  r.check sha
  return r

structure EventScope where
  organizationId : Str
  tenantId : Str
  repositoryId : Str
  environmentId : Str
  principalId : Str
  agentClientId : Str
  actorType : EventActorType
  actorId : Str
  deriving DecidableEq

def eventScope (e : EventEnvelope) : EventScope :=
  ⟨e.organizationId, e.tenantId, e.repositoryId, e.environmentId, e.principalId, e.agentClientId,
    e.actorType, e.actorId⟩

def contextScope (c : EventTrustedContext) : EventScope :=
  ⟨c.organizationId, c.tenantId, c.repositoryId, c.environmentId, c.principalId, c.agentClientId,
    c.actorType, c.actorId⟩

def verifySemanticGateEventScope (e : EventEnvelope) (c : EventTrustedContext) :
    Except GateError Unit :=
  raiseIf (eventScope e ≠ contextScope c)
    (invalidAttemptEvent "event is outside the trusted event scope")

def parsedSystemParent (e : EventEnvelope) : Except GateError GateEvidenceRecordRef :=
  match parseGateEvidenceEvent sha e with
  | .ok r => .ok r
  | .error _ => .error (invalidAttemptEvent "System Gate parent event failed validation")

def verifySemanticGateSystemParent (a : SemanticGateAttempt sha) (systemGateEvent : EventEnvelope)
    (c : EventTrustedContext) : Except GateError Unit := do
  let r ← @parsedSystemParent sha systemGateEvent
  raiseIf (systemGateEvent.eventType ≠ systemGateEvaluatedEvent ∨
      r.recordId ≠ a.systemGateEvaluationId ∨ r.sessionId ≠ a.sessionId ∨
      r.retrievalSnapshotId ≠ some a.retrievalSnapshotId ∨
      systemGateEvent.eventId ≠ gateEvidenceEventId sha systemGateEvaluatedEvent a.systemGateEvaluationId)
    (invalidAttemptEvent "System Gate parent does not match the Semantic Gate attempt")
  verifySemanticGateEventScope systemGateEvent c

def verifyPreviousEvent (a : SemanticGateAttempt sha) (streamId : Str) (previous : EventEnvelope)
    (c : EventTrustedContext) : Except GateError Unit := do
  verifySemanticGateEventScope previous c
  let r ← parseSemanticGateAttemptEvent sha previous
  raiseIf (some r.attemptId ≠ a.previousAttemptId ∨ r.streamId ≠ streamId ∨ r.sequence + 1 ≠ a.sequence)
    (invalidAttemptEvent "previous_event does not match the retry attempt")

-- The parent the attempt is caused by: its System Gate event, or the attempt before it.
def causationParent (a : SemanticGateAttempt sha) (streamId : Str)
    (systemGateEvent previousEvent : Option (CanonicalEvent sha)) (c : EventTrustedContext) :
    Except GateError (CanonicalEvent sha) :=
  if a.sequence = 1 then do
    raiseIf (previousEvent.isSome = true)
      (invalidAttemptEvent "first attempt cannot receive a previous stream event")
    let parent ← demand systemGateEvent
      (invalidAttemptEvent "first attempt requires the retained System Gate event")
    verifySemanticGateSystemParent a parent.toEventEnvelope c
    return parent
  else do
    raiseIf (systemGateEvent.isSome = true)
      (invalidAttemptEvent "retry attempt cannot receive a System Gate parent event")
    let parent ← demand previousEvent
      (invalidAttemptEvent "retry attempt requires the previous stream event")
    verifyPreviousEvent a streamId parent.toEventEnvelope c
    return parent

def verifyCausationOrder (e parent : EventEnvelope) : Except GateError Unit := do
  raiseIf (e.globalPosition ≤ parent.globalPosition)
    (invalidAttemptEvent "global_position must advance after the causation parent")
  raiseIf (micros e.recordedAt < micros parent.recordedAt)
    (invalidAttemptEvent "recorded_at precedes the causation parent")

def attemptEnvelope (sha : Sha256) (r : AttemptEventRef) (eventId : Str) (refs : List EventArtifactRef)
    (previousSha256 : Option Str) (globalPosition : Nat) (c : EventTrustedContext) :
    EventEnvelope where
  eventId := eventId
  eventType := attemptEventType r.status
  eventVersion := 1
  eventKind := .domain
  origin := .native
  source := none
  streamId := r.streamId
  streamType := attemptStreamType
  streamVersion := r.sequence
  globalPosition := globalPosition
  organizationId := c.organizationId
  tenantId := c.tenantId
  repositoryId := c.repositoryId
  environmentId := c.environmentId
  principalId := c.principalId
  agentClientId := c.agentClientId
  actorType := c.actorType
  actorId := c.actorId
  authorizationDecisionId := c.authorizationDecisionId
  requestId := attemptRequestId sha r.attemptId
  idempotencyKeySha256 := attemptIdentitySha256 sha r.attemptId
  requestSha256 := attemptCommandSha256 sha r c.authorizationDecisionId
  correlationId := attemptCorrelationId sha r.sessionId
  causationId := some r.causationEventId
  occurredAt := some r.finishedAt
  recordedAt := r.finishedAt
  producer := producerName
  producerVersion := producerVersionText
  payloadSchema := attemptEventType r.status ++ lit ".v1"
  payloadSha256 := sha.domain [] (.obj r.fields)
  previousStreamEventSha256 := previousSha256
  classification := .internal
  retentionPolicyId := retentionPolicyId
  artifactRefs := refs
  payload := .obj r.fields

def previousEventSha256 (a : SemanticGateAttempt sha) (parent : CanonicalEvent sha) : Option Str :=
  if a.sequence = 1 then none else some parent.eventSha256

def buildSemanticGateAttemptEvent (admits : EventEnvelope → Except GateError Unit)
    (b : BundleFields sha hash) (systemGateEvent previousEvent : Option (CanonicalEvent sha))
    (globalPosition : Nat) (c : EventTrustedContext) : Except GateError (CanonicalEvent sha) := do
  let r ← semanticGateAttemptEventRef b
  let parent ← causationParent b.attempt r.streamId systemGateEvent previousEvent c
  let eventId ← attemptEventId sha b.attempt.attemptId
  let refs ← r.artifactRefs
  let event ← buildCanonicalEvent sha admits
    (attemptEnvelope sha r eventId refs (previousEventSha256 b.attempt parent) globalPosition c)
  verifyCausationOrder event.toEventEnvelope parent.toEventEnvelope
  let _ ← parseSemanticGateAttemptEvent sha event.toEventEnvelope
  return event

end Building

section RoundTrip

theorem attemptRefNamed_of_mem {refs : List EventArtifactRef} {a : EventArtifactRef}
    (hdistinct : ∀ b ∈ refs, b.artifactId = a.artifactId → b = a) (ha : a ∈ refs) :
    attemptRefNamed refs a.artifactId = some a := by
  rw [attemptRefNamed]
  cases hfound : refs.find? (fun b => decide (b.artifactId = a.artifactId)) with
  | none => exact absurd (decide_eq_true rfl) (List.find?_eq_none.mp hfound a ha)
  | some b =>
    have hid := List.find?_some hfound
    rw [hdistinct b (List.mem_of_find?_eq_some hfound) (of_decide_eq_true hid)]

theorem sortedUnique_eq_ok {values refs : List EventArtifactRef}
    (h : sortedUniqueArtifactRefs values = .ok refs) :
    (∀ a, a ∈ refs ↔ a ∈ values) ∧
      ∀ a ∈ values, ∀ b ∈ values, a.artifactId = b.artifactId → a = b := by
  simp only [sortedUniqueArtifactRefs, bind_eq_ok, exists_unit, raiseIf_eq_ok, pure_eq_ok] at h
  obtain ⟨hdistinct, rfl⟩ := h
  constructor
  · intro a
    rw [(List.perm_insertionSort _ _).mem_iff, List.mem_dedup]
  · intro a ha b hb hid
    by_contra hne
    exact hdistinct ⟨a, ha, b, hb, hid, hne⟩

theorem named_of_artifactRefs {r : AttemptEventRef} {refs : List EventArtifactRef}
    (h : r.artifactRefs = .ok refs) {a : EventArtifactRef}
    (ha : a ∈ [r.attemptArtifactRef, r.promptArtifactRef] ++ r.responseArtifactRef.toList) :
    attemptRefNamed refs a.artifactId = some a := by
  obtain ⟨hmem, hdistinct⟩ := sortedUnique_eq_ok h
  refine attemptRefNamed_of_mem ?_ ((hmem a).mpr ha)
  intro b hb hid
  exact hdistinct b ((hmem b).mp hb) a ha hid

theorem attemptTexts_of {fields : Fields} {name : String} {ids : List Str}
    (h : valueAt fields (lit name) = AttemptContent.jsonTexts ids) :
    attemptTexts fields name = .ok ids := by
  simp only [attemptTexts, h, AttemptContent.jsonTexts, GateEvents.strings_map, demand]

theorem optionalAttemptText_of {fields : Fields} {name : String} {value : Option Str}
    (h : valueAt fields (lit name) = jsonOptional value) : optionalAttemptText fields name = .ok value := by
  rw [optionalAttemptText, h]
  cases value with
  | none => rfl
  | some v => rfl

theorem optionalAttemptNumber_of {fields : Fields} {name : String} {value : Option Nat}
    (h : valueAt fields (lit name) = AttemptContent.jsonNumber value) :
    optionalAttemptNumber fields name = .ok value := by
  rw [optionalAttemptNumber, h]
  cases value with
  | none => rfl
  | some v => rfl

theorem attemptMember_status {fields : Fields} {status : AttemptStatus} {e : GateError}
    (h : valueAt fields (lit "status") = .str status.text) :
    attemptMember [.succeeded, .failed] AttemptStatus.text fields "status" e = .ok status := by
  rw [attemptMember, attemptText, h]
  cases status with
  | succeeded => rfl
  | failed => rfl

theorem optionalAttemptMember_of {α : Type} {values : List α} {text : α → Str} {fields : Fields}
    {name : String} {e : GateError} {value : Option α}
    (hfind : ∀ a, values.find? (fun b => decide (text b = text a)) = some a)
    (h : valueAt fields (lit name) = jsonOptional (value.map text)) :
    optionalAttemptMember values text fields name e = .ok value := by
  rw [optionalAttemptMember, h]
  cases value with
  | none => rfl
  | some a =>
    show (demand _ e >>= fun b => pure (some b)) = _
    rw [hfind a]
    rfl

theorem find_risk (a : SemanticRisk) :
    [SemanticRisk.low, .medium, .high, .unknown].find? (fun b => decide (b.text = a.text)) = some a := by
  cases a <;> rfl

theorem find_injection (a : RecommendedInjection) :
    [RecommendedInjection.nothing, .summary, .full].find? (fun b => decide (b.text = a.text)) =
      some a := by
  cases a <;> rfl

set_option maxRecDepth 4000 in
theorem readAttemptRef_fields {r : AttemptEventRef} {refs : List EventArtifactRef}
    (h : r.artifactRefs = .ok refs) : readAttemptRef refs r.fields = .ok r := by
  have hattempt : attemptRefNamed refs r.attemptArtifactRef.artifactId = some r.attemptArtifactRef :=
    named_of_artifactRefs h (List.mem_cons_self ..)
  have hprompt : attemptRefNamed refs r.promptArtifactRef.artifactId = some r.promptArtifactRef :=
    named_of_artifactRefs h (List.mem_cons_of_mem _ (List.mem_cons_self ..))
  have hresponse : (r.responseArtifactRef.map EventArtifactRef.artifactId).bind (attemptRefNamed refs) =
      r.responseArtifactRef := by
    cases hr : r.responseArtifactRef with
    | none => rfl
    | some a => exact named_of_artifactRefs h (by simp [hr])
  simp only [readAttemptRef, bind_eq_ok, demand_eq_ok, pure_eq_ok]
  refine ⟨_, rfl, _, rfl, _, optionalAttemptText_of rfl, _, hattempt, _, hprompt, _, attemptTexts_of rfl,
    _, attemptTexts_of rfl, _, rfl, _, rfl, _, rfl, _, rfl, _, rfl, _, rfl, _,
    optionalAttemptText_of rfl, _, rfl, _, rfl, _, rfl, _, optionalAttemptText_of rfl, _, rfl, _, rfl,
    _, rfl, _, optionalAttemptText_of rfl, _, rfl, _, optionalAttemptText_of rfl, _,
    attemptMember_status rfl, _, optionalAttemptText_of rfl, _,
    optionalAttemptMember_of find_risk rfl, _, optionalAttemptMember_of find_injection rfl, _,
    optionalAttemptText_of rfl, _, optionalAttemptNumber_of rfl, _, optionalAttemptNumber_of rfl, _, rfl,
    _, rfl, _, rfl, _, rfl, ?_⟩
  rw [hresponse]

end RoundTrip

section Built

structure CheckedRef (sha : Sha256) (r : AttemptEventRef) : Prop where
  stream : attemptStreamId sha r.systemGateEvaluationId = .ok r.streamId
  causation : r.expectedCausation sha = .ok r.causationEventId
  sequence : 1 ≤ r.sequence

theorem checked_of_ok {r : AttemptEventRef} (h : r.check sha = .ok ()) : CheckedRef sha r := by
  simp only [AttemptEventRef.check, bind_eq_ok, exists_unit, raiseIf_eq_ok, ne_eq, not_not] at h
  obtain ⟨-, stream, hstream, hstreamId, -, -, -, hsequence, causation, hcausation, hcausationId, -⟩ := h
  rw [← hstreamId] at hstream
  rw [← hcausationId] at hcausation
  exact ⟨hstream, hcausation, hsequence.1⟩

structure ParsedAttempt (sha : Sha256) (e : EventEnvelope) (r : AttemptEventRef) : Prop where
  checked : CheckedRef sha r
  read : ∃ fields, e.payload = .obj fields ∧ readAttemptRef e.artifactRefs fields = .ok r
  stream : e.streamId = r.streamId
  version : e.streamVersion = r.sequence
  eventId : attemptEventId sha r.attemptId = .ok e.eventId

theorem parsedAttempt_of_ok {e : EventEnvelope} {r : AttemptEventRef}
    (h : parseSemanticGateAttemptEvent sha e = .ok r) : ParsedAttempt sha e r := by
  simp only [parseSemanticGateAttemptEvent, verifyAttemptEnvelope, bind_eq_ok, exists_unit,
    raiseIf_eq_ok, pure_eq_ok] at h
  obtain ⟨-, -, refs, -, -, fields, hfields, -, -, r', hread, hcheck, hlinkage, -, ⟨eventId, hid,
    hsame⟩, rfl⟩ := h
  simp only [linkageInvalid, not_or, ne_eq, not_not] at hlinkage hsame
  refine ⟨checked_of_ok hcheck, ⟨fields, ?_, hread⟩, hlinkage.2.1, hlinkage.2.2.1, ?_⟩
  · cases hpayload : e.payload with
    | obj items =>
      rw [hpayload, attemptPayload] at hfields
      cases hfields
      rfl
    | _ =>
      rw [hpayload] at hfields
      cases hfields
  · rw [hid, hsame.1]

theorem eventRef_of_ok {b : BundleFields sha hash} {r : AttemptEventRef}
    (h : semanticGateAttemptEventRef b = .ok r) :
    r = attemptRefFields b r.causationEventId r.streamId ∧ r.check sha = .ok () := by
  simp only [semanticGateAttemptEventRef, bind_eq_ok, exists_unit, pure_eq_ok] at h
  obtain ⟨-, -, causation, -, stream, -, hcheck, rfl⟩ := h
  exact ⟨rfl, hcheck⟩

structure BuiltAttempt (b : BundleFields sha hash) (systemGateEvent previousEvent : Option (CanonicalEvent sha))
    (c : EventTrustedContext) (e : CanonicalEvent sha) (r : AttemptEventRef)
    (parent : CanonicalEvent sha) : Prop where
  ref : semanticGateAttemptEventRef b = .ok r
  parsed : parseSemanticGateAttemptEvent sha e.toEventEnvelope = .ok r
  caused : causationParent b.attempt r.streamId systemGateEvent previousEvent c = .ok parent
  position : parent.globalPosition < e.globalPosition
  previous : e.previousStreamEventSha256 = previousEventSha256 b.attempt parent
  scope_eq : eventScope e.toEventEnvelope = contextScope c
  eventType : e.eventType = attemptEventType r.status

theorem builtAttempt_of_ok {admits : EventEnvelope → Except GateError Unit} {b : BundleFields sha hash}
    {systemGateEvent previousEvent : Option (CanonicalEvent sha)} {position : Nat}
    {c : EventTrustedContext} {e : CanonicalEvent sha}
    (h : buildSemanticGateAttemptEvent admits b systemGateEvent previousEvent position c = .ok e) :
    ∃ r parent, BuiltAttempt b systemGateEvent previousEvent c e r parent := by
  simp only [buildSemanticGateAttemptEvent, verifyCausationOrder, bind_eq_ok, exists_unit, raiseIf_eq_ok,
    pure_eq_ok, not_le] at h
  obtain ⟨r, href, parent, hparent, eventId, -, refs, hrefs, event, hevent, ⟨hposition, -⟩, r', hparsed,
    rfl⟩ := h
  have henvelope := (GateEvents.buildCanonicalEvent_eq_ok hevent).1
  refine ⟨r, parent, href, ?_, hparent, hposition, ?_, ?_, ?_⟩
  · obtain ⟨fields, hfields, hread⟩ := (parsedAttempt_of_ok hparsed).read
    rw [henvelope] at hfields hread
    cases hfields
    have hsame : readAttemptRef refs r.fields = .ok r' := hread
    rw [readAttemptRef_fields hrefs] at hsame
    cases hsame
    exact hparsed
  · rw [henvelope]
    rfl
  · rw [henvelope]
    rfl
  · rw [henvelope]
    rfl

end Built

end SemanticGate

end TraceBackedMemory
