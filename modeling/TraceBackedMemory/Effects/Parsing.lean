import TraceBackedMemory.Effects.Events

namespace TraceBackedMemory

open Text Raising

open GateEvents (keysAre)

open Json (valueAt)

open Outbox (DeliveryStatus parseCompletionOutboxEvent parseCompletionOutboxDelivery)

namespace Effects

variable {sha : Sha256}

section Envelopes

def streamType : Str := lit "effect"

def envelopeInvalid (e : CanonicalEvent sha) (eventType : Str) : Prop :=
  e.eventType ≠ eventType ∨ e.eventVersion ≠ 1 ∨ e.eventKind ≠ .domain ∨ e.origin ≠ .native ∨
    e.source ≠ none ∨ e.streamType ≠ streamType ∨ e.payloadSchema ≠ eventType ++ lit ".v1" ∨
    e.classification ≠ .internal ∨ e.retentionPolicyId ≠ GateEvents.retentionPolicyId ∨
    e.artifactRefs ≠ []

instance decidableEnvelopeInvalid (e : CanonicalEvent sha) (eventType : Str) :
    Decidable (envelopeInvalid e eventType) := inferInstanceAs (Decidable (_ ∨ _))

def verifyEventShape (e : CanonicalEvent sha) (eventType : Str) : Except GateError Unit :=
  raiseIf (envelopeInvalid e eventType) (invalidEffect (lit "effect event envelope is invalid"))

def payloadOf (e : CanonicalEvent sha) : Except GateError JsonFields :=
  match e.payload with
  | .obj fields => .ok fields
  | _ => .error (invalidEffect (lit "effect event payload must be an object"))

def checkPayload (fields : JsonFields) (names : List Str) (message : String) :
    Except GateError Unit :=
  raiseIf (keysAre fields names = false ∨
      valueAt fields (lit "contract_version") ≠ .str contractVersion)
    (invalidEffect (lit message))

def authority (e : EventEnvelope) : List Str :=
  [e.organizationId, e.tenantId, e.repositoryId, e.environmentId, e.principalId, e.agentClientId]

end Envelopes

section Requests

def readOutboxEvent (sha : Sha256) (value : Json) :
    Except GateError (Option (Outbox.CompletionOutboxEvent sha)) :=
  match value with
  | .null => .ok none
  | _ => do
    let event ← orInvalidEffect (parseCompletionOutboxEvent sha value)
      "EffectRequested outbox event is invalid"
    return some event

def readInitialDelivery (sha : Sha256) (value : Json) :
    Except GateError (Option (Outbox.CompletionOutboxDelivery sha)) :=
  match value with
  | .null => .ok none
  | _ => do
    let delivery ← orInvalidEffect (parseCompletionOutboxDelivery sha value)
      "EffectRequested initial delivery is invalid"
    return some delivery

def parseEffectRequestedEvent (e : CanonicalEvent sha) :
    Except GateError (EffectRequestedRef sha) := do
  verifyEventShape e effectRequestedEvent
  raiseIf (e.streamVersion ≠ 1 ∨ e.previousStreamEventSha256 ≠ none)
    (invalidEffect (lit "EffectRequested must begin an effect stream"))
  let fields ← payloadOf e
  checkPayload fields
    [lit "contract_version", lit "effect", lit "outbox_event", lit "initial_delivery"]
    "EffectRequested payload is invalid"
  let effect ← parseEffectContract (valueAt fields (lit "effect"))
  let outboxEvent ← readOutboxEvent sha (valueAt fields (lit "outbox_event"))
  let initialDelivery ← readInitialDelivery sha (valueAt fields (lit "initial_delivery"))
  let reference : EffectRequestedRef sha := ⟨effect, outboxEvent, initialDelivery⟩
  reference.check
  raiseIf (e.streamId ≠ effectStreamId sha effect.effectId ∨
      some effect.requestedByEventId ≠ e.causationId ∨
      effect.authorizationEventId ≠ e.authorizationDecisionId ∨
      e.eventId ≠ effectEventId sha effectRequestedEvent effect.effectId none)
    (invalidEffect (lit "EffectRequested envelope linkage is invalid"))
  return reference

end Requests

section Deliveries

def deliveryStatusesOf (eventType : Str) : List DeliveryStatus :=
  if eventType = effectStartedEvent then [.leased]
  else if eventType = effectSucceededEvent then [.delivered]
  else if eventType = effectFailedEvent then [.retryWait, .deadLetter]
  else if eventType = effectRetryScheduledEvent then [.retryWait]
  else [.deadLetter]

def verifyDeliveryEventStatus (eventType : Str) (status : DeliveryStatus) : Except GateError Unit :=
  raiseIf (status ∉ deliveryStatusesOf eventType)
    (invalidEffect (lit "effect event type does not match delivery status"))

def deliveryReference (e : CanonicalEvent sha) :
    Except GateError (EffectDeliveryTransitionRef sha) := do
  raiseIf (e.eventType ∉ deliveryEventTypes)
    (invalidEffect (lit "event is not an effect delivery event"))
  verifyEventShape e e.eventType
  let fields ← payloadOf e
  checkPayload fields
    [lit "contract_version", lit "effect_id", lit "outbox_event_id", lit "previous_delivery",
      lit "delivery"]
    "effect delivery payload is invalid"
  let previousDelivery ← orInvalidEffect
    (parseCompletionOutboxDelivery sha (valueAt fields (lit "previous_delivery")))
    "effect delivery revision is invalid"
  let delivery ← orInvalidEffect
    (parseCompletionOutboxDelivery sha (valueAt fields (lit "delivery")))
    "effect delivery revision is invalid"
  let effectId ← readIdentifier fields "effect_id"
  let outboxEventId ← readIdentifier fields "outbox_event_id"
  let reference : EffectDeliveryTransitionRef sha :=
    ⟨effectId, outboxEventId, previousDelivery, delivery⟩
  reference.check
  raiseIf (e.streamId ≠ effectStreamId sha effectId ∨
      e.eventId ≠ effectEventId sha e.eventType effectId (some delivery.deliveryRevisionId) ∨
      e.occurredAt ≠ some delivery.updatedAt)
    (invalidEffect (lit "effect delivery envelope linkage is invalid"))
  verifyDeliveryEventStatus e.eventType delivery.status
  return reference

end Deliveries

section Providers

def stageOf (value : Json) : Except GateError ProviderEffectStage :=
  demand (providerEffectStages.find? (fun stage => decide (Json.str stage.text = value)))
    (invalidEffect (lit "provider effect stage is not supported"))

def readResult (value : Json) : Except GateError (Option ProviderReconciliationResult) :=
  match value with
  | .null => .ok none
  | _ => do
    let result ← demand
      (providerReconciliationResults.find? (fun result => decide (Json.str result.text = value)))
      (invalidEffect (lit "reconciliation_result is not supported"))
    return some result

def providerTransitionFields : List Str :=
  [lit "contract_version", lit "transition_id", lit "effect_id", lit "attempt_id",
    lit "attempt_sequence", lit "provider_invocation_id", lit "stage", lit "provider_id",
    lit "model_id", lit "model_version", lit "endpoint_id", lit "request_sha256",
    lit "provider_request_id", lit "response_sha256", lit "provider_receipt_id",
    lit "error_code", lit "reconciliation_sequence", lit "reconciliation_id",
    lit "reconciliation_result", lit "retry_at"]

def parseProviderEffectTransition (sha : Sha256) (fields : JsonFields) :
    Except GateError ProviderEffectTransitionRef := do
  checkPayload fields providerTransitionFields "provider effect transition payload is invalid"
  let effectId ← readIdentifier fields "effect_id"
  let attemptId ← readIdentifier fields "attempt_id"
  let providerInvocationId ← readIdentifier fields "provider_invocation_id"
  let providerId ← readIdentifier fields "provider_id"
  let modelId ← readIdentifier fields "model_id"
  let modelVersion ← readIdentifier fields "model_version"
  let endpointId ← readIdentifier fields "endpoint_id"
  let attemptSequence ← readSequence fields "attempt_sequence"
  let stage ← stageOf (valueAt fields (lit "stage"))
  let requestSha256 ← readDigest fields "request_sha256"
  let providerRequestId ← readOptionalIdentifier fields "provider_request_id"
  let responseSha256 ← readOptionalDigest fields "response_sha256"
  let providerReceiptId ← readOptionalIdentifier fields "provider_receipt_id"
  let errorCode ← readOptionalIdentifier fields "error_code"
  let reconciliationSequence ← readOptionalSequence fields "reconciliation_sequence"
  let reconciliationId ← readOptionalIdentifier fields "reconciliation_id"
  let reconciliationResult ← readResult (valueAt fields (lit "reconciliation_result"))
  let retryAt ← readOptionalTimestamp fields "retry_at"
  let reference : ProviderEffectTransitionRef :=
    { effectId, attemptId, attemptSequence, providerInvocationId, stage, providerId, modelId,
      modelVersion, endpointId, requestSha256, providerRequestId, responseSha256,
      providerReceiptId, errorCode, reconciliationSequence, reconciliationId,
      reconciliationResult, retryAt }
  reference.check sha
  raiseIf (valueAt fields (lit "transition_id") ≠ .str (reference.transitionId sha))
    (invalidEffect (lit "provider effect transition ID is not content-derived"))
  return reference

def providerReference (e : CanonicalEvent sha) : Except GateError ProviderEffectTransitionRef := do
  verifyEventShape e effectProviderTransitionEvent
  let fields ← payloadOf e
  let reference ← parseProviderEffectTransition sha fields
  raiseIf (e.streamId ≠ effectStreamId sha reference.effectId ∨
      e.eventId ≠ effectEventId sha effectProviderTransitionEvent reference.effectId
        (some (reference.transitionId sha)))
    (invalidEffect (lit "provider effect transition envelope linkage is invalid"))
  return reference

end Providers

section Compensations

def parseEffectCompensationRequestedEvent (e : CanonicalEvent sha) :
    Except GateError EffectCompensationRequestedRef := do
  verifyEventShape e effectCompensationRequestedEvent
  raiseIf (e.streamVersion ≠ 1 ∨ e.previousStreamEventSha256 ≠ none)
    (invalidEffect (lit "EffectCompensationRequested must begin a new effect stream"))
  let fields ← payloadOf e
  checkPayload fields
    [lit "contract_version", lit "original_effect_id", lit "original_terminal_event_id",
      lit "compensation_effect"]
    "EffectCompensationRequested payload is invalid"
  let compensationEffect ← parseEffectContract (valueAt fields (lit "compensation_effect"))
  let originalEffectId ← readIdentifier fields "original_effect_id"
  let originalTerminalEventId ← readIdentifier fields "original_terminal_event_id"
  let reference : EffectCompensationRequestedRef :=
    ⟨originalEffectId, originalTerminalEventId, compensationEffect⟩
  reference.check
  raiseIf (some originalTerminalEventId ≠ e.causationId ∨
      compensationEffect.authorizationEventId ≠ e.authorizationDecisionId ∨
      e.streamId ≠ effectStreamId sha compensationEffect.effectId ∨
      e.eventId ≠ effectEventId sha effectCompensationRequestedEvent compensationEffect.effectId none)
    (invalidEffect (lit "EffectCompensationRequested envelope linkage is invalid"))
  return reference

def parseEffectCompensatedEvent (e : CanonicalEvent sha) : Except GateError EffectCompensatedRef := do
  verifyEventShape e effectCompensatedEvent
  let fields ← payloadOf e
  checkPayload fields
    [lit "contract_version", lit "original_effect_id", lit "compensation_effect_id",
      lit "compensation_request_event_id"]
    "EffectCompensated payload is invalid"
  let originalEffectId ← readIdentifier fields "original_effect_id"
  let compensationEffectId ← readIdentifier fields "compensation_effect_id"
  let compensationRequestEventId ← readIdentifier fields "compensation_request_event_id"
  let reference : EffectCompensatedRef :=
    ⟨originalEffectId, compensationEffectId, compensationRequestEventId⟩
  reference.check
  raiseIf (e.streamId ≠ effectStreamId sha compensationEffectId ∨ e.causationId = none ∨
      e.previousStreamEventSha256 = none ∨
      e.eventId ≠ effectEventId sha effectCompensatedEvent compensationEffectId
        (some compensationRequestEventId))
    (invalidEffect (lit "EffectCompensated envelope linkage is invalid"))
  return reference

end Compensations

end Effects

end TraceBackedMemory
