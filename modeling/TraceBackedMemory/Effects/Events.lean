import TraceBackedMemory.Outbox.Records

namespace TraceBackedMemory

open Text Raising

open Outbox (CompletionOutboxEvent CompletionOutboxDelivery boundedText buildInitialDelivery verifyTransition)

open GateEvents (keysAre)

open Json (valueAt)

namespace Effects

variable {sha : Sha256}

section Checks

def invalidEffect (message : Str) : GateError :=
  ⟨.contract, lit "TBM_EFFECT_EVENT_INVALID", message⟩

def isAlphanumeric (c : CodePoint) : Bool :=
  decide (48 ≤ c.val ∧ c.val ≤ 57 ∨ 65 ≤ c.val ∧ c.val ≤ 90 ∨ 97 ≤ c.val ∧ c.val ≤ 122)

def isIdentifier : Str → Bool
  | [] => false
  | c :: rest =>
    isAlphanumeric c && decide (rest.length ≤ 127) &&
      rest.all (fun c => isAlphanumeric c || (lit "._:-").contains c)

def notIdentifier (name : Str) : GateError :=
  invalidEffect (name ++ lit " must be a bounded identifier")

def identifier (value name : Str) : Except GateError Unit :=
  raiseIf (isIdentifier value = false) (notIdentifier name)

def notDigest (name : Str) : GateError := invalidEffect (name ++ lit " must be a SHA-256 digest")

def digest (value name : Str) : Except GateError Unit :=
  raiseIf (isDigest value = false) (notDigest name)

def notTimestamp (name : Str) : GateError :=
  invalidEffect (name ++ lit " must be a canonical RFC 3339 timestamp")

def timestamp (value name : Str) : Except GateError Unit := do
  let canonical ← canonicalRfc3339 value
  raiseIf (canonical ≠ value) (notTimestamp name)

def orInvalidEffect {ε α : Type} (x : Except ε α) (message : String) : Except GateError α :=
  match x with
  | .ok a => .ok a
  | .error _ => .error (invalidEffect (lit message))

def readText (check : Str → Str → Except GateError Unit) (refusal : Str → GateError) (fields : JsonFields)
    (name : String) : Except GateError Str :=
  match valueAt fields (lit name) with
  | .str value => do
    check value (lit name)
    return value
  | _ => .error (refusal (lit name))

def readOptionalText (check : Str → Str → Except GateError Unit) (refusal : Str → GateError)
    (fields : JsonFields) (name : String) : Except GateError (Option Str) :=
  match valueAt fields (lit name) with
  | .null => .ok none
  | .str value => do
    check value (lit name)
    return some value
  | _ => .error (refusal (lit name))

def readIdentifier : JsonFields → String → Except GateError Str := readText identifier notIdentifier

def readDigest : JsonFields → String → Except GateError Str := readText digest notDigest

def readOptionalIdentifier : JsonFields → String → Except GateError (Option Str) :=
  readOptionalText identifier notIdentifier

def readOptionalDigest : JsonFields → String → Except GateError (Option Str) :=
  readOptionalText digest notDigest

def readOptionalTimestamp : JsonFields → String → Except GateError (Option Str) :=
  readOptionalText timestamp notTimestamp

def outOfSequence (name : Str) : GateError :=
  invalidEffect (name ++ lit " must be between 1 and 1000")

def checkSequence (n : Int) (name : Str) : Except GateError Unit :=
  raiseIf (n < 1 ∨ 1000 < n) (outOfSequence name)

def readSequence (fields : JsonFields) (name : String) : Except GateError Nat :=
  match valueAt fields (lit name) with
  | .num (.int n) => do
    checkSequence n (lit name)
    return n.toNat
  | _ => .error (outOfSequence (lit name))

def readOptionalSequence (fields : JsonFields) (name : String) : Except GateError (Option Nat) :=
  match valueAt fields (lit name) with
  | .null => .ok none
  | .num (.int n) => do
    checkSequence n (lit name)
    return some n.toNat
  | _ => .error (outOfSequence (lit name))

end Checks

section Identities

def contractVersion : Str := lit "tbm.effect-event.v1"

def effectDomainSha256 (sha : Sha256) (domain : String) (value : Json) : Except GateError Str := do
  raiseIf (encodable value = false)
    (invalidEffect (lit "effect event identity input is not canonical JSON"))
  return sha.domain (lit domain) value

-- The inputs of the identifiers below are ASCII by the checks before them, so the encoder never
-- refuses them and only the digest itself is left.

def effectStreamId (sha : Sha256) (effectId : Str) : Str :=
  lit "effect_stream_sha256_" ++
    sha.hexdigest (lit "tbm.effect-stream.v1\x00") (.obj [(lit "effect_id", .str effectId)])

def effectEventId (sha : Sha256) (eventType effectId : Str) (identitySuffix : Option Str) : Str :=
  lit "evt_effect_" ++ sha.hexdigest (lit "tbm.effect-event-identity.v1\x00")
    (.obj [(lit "event_type", .str eventType), (lit "effect_id", .str effectId),
      (lit "identity_suffix", jsonOptional identitySuffix)])

def effectRequestId (sha : Sha256) (effectId : Str) : Str :=
  lit "effect_request_" ++
    (sha.hexdigest (lit "tbm.effect-request.v1\x00") (.obj [(lit "effect_id", .str effectId)])).take 48

def effectCorrelationId (sha : Sha256) (effectId : Str) : Str :=
  lit "effect_correlation_" ++
    (sha.hexdigest (lit "tbm.effect-correlation.v1\x00")
      (.obj [(lit "effect_id", .str effectId)])).take 44

def providerEffectAttemptId (sha : Sha256) (effectId : Str) (attemptSequence : Nat) : Str :=
  lit "effect_attempt_sha256_" ++ sha.hexdigest (lit "tbm.provider-effect-attempt.v1\x00")
    (.obj [(lit "effect_id", .str effectId), (lit "attempt_sequence", jsonInt attemptSequence)])

def providerEffectInvocationId (sha : Sha256) (effectId attemptId providerId modelId modelVersion
    endpointId requestSha256 : Str) : Str :=
  lit "provider_invocation_sha256_" ++ sha.hexdigest (lit "tbm.provider-effect-invocation.v1\x00")
    (.obj [(lit "effect_id", .str effectId), (lit "attempt_id", .str attemptId),
      (lit "provider_id", .str providerId), (lit "model_id", .str modelId),
      (lit "model_version", .str modelVersion), (lit "endpoint_id", .str endpointId),
      (lit "request_sha256", .str requestSha256)])

def providerEffectReceiptId (sha : Sha256) (invocationId requestId responseSha256 : Str) : Str :=
  lit "provider_receipt_sha256_" ++ sha.hexdigest (lit "tbm.provider-effect-receipt.v1\x00")
    (.obj [(lit "provider_invocation_id", .str invocationId),
      (lit "provider_request_id", .str requestId), (lit "response_sha256", .str responseSha256)])

end Identities

section EventTypes

def effectRequestedEvent : Str := lit "tbm.effect.requested"

def effectStartedEvent : Str := lit "tbm.effect.started"

def effectSucceededEvent : Str := lit "tbm.effect.succeeded"

def effectFailedEvent : Str := lit "tbm.effect.failed"

def effectRetryScheduledEvent : Str := lit "tbm.effect.retry_scheduled"

def effectDeadLetteredEvent : Str := lit "tbm.effect.dead_lettered"

def effectCompensationRequestedEvent : Str := lit "tbm.effect.compensation_requested"

def effectCompensatedEvent : Str := lit "tbm.effect.compensated"

def effectProviderTransitionEvent : Str := lit "tbm.effect.provider_transition"

def effectEventTypes : List Str :=
  [effectCompensatedEvent, effectCompensationRequestedEvent, effectDeadLetteredEvent,
    effectFailedEvent, effectProviderTransitionEvent, effectRequestedEvent,
    effectRetryScheduledEvent, effectStartedEvent, effectSucceededEvent]

def deliveryEventTypes : List Str :=
  [effectStartedEvent, effectSucceededEvent, effectFailedEvent, effectRetryScheduledEvent,
    effectDeadLetteredEvent]

end EventTypes

section Contracts

structure ContractRecord where
  effectId : Str
  effectType : Str
  idempotencyKey : Str
  requestedByEventId : Str
  inputArtifactSha256 : Str
  authorizationEventId : Str
  compensationSupported : Bool
  deriving DecidableEq

def ContractRecord.check (r : ContractRecord) : Except GateError Unit := do
  checkEach (fun f => identifier f.2 f.1)
    [(lit "effect_id", r.effectId), (lit "effect_type", r.effectType),
      (lit "requested_by_event_id", r.requestedByEventId),
      (lit "authorization_event_id", r.authorizationEventId)]
  raiseIf (boundedText 512 r.idempotencyKey = false)
    (invalidEffect (lit "idempotency_key must be bounded non-empty text"))
  digest r.inputArtifactSha256 (lit "input_artifact_sha256")

structure EffectContract extends ContractRecord where
  valid : toContractRecord.check = .ok ()
  deriving DecidableEq

def ContractRecord.construct (r : ContractRecord) : Except GateError EffectContract :=
  match h : r.check with
  | .ok () => .ok ⟨r, h⟩
  | .error e => .error e

def EffectContract.toDict (c : EffectContract) : Json :=
  .obj [(lit "effect_id", .str c.effectId), (lit "effect_type", .str c.effectType),
    (lit "idempotency_key", .str c.idempotencyKey),
    (lit "requested_by_event_id", .str c.requestedByEventId),
    (lit "input_artifact_sha256", .str c.inputArtifactSha256),
    (lit "authorization_event_id", .str c.authorizationEventId),
    (lit "compensation_supported", .bool c.compensationSupported)]

def contractFields : List Str :=
  [lit "effect_id", lit "effect_type", lit "idempotency_key", lit "requested_by_event_id",
    lit "input_artifact_sha256", lit "authorization_event_id", lit "compensation_supported"]

def keyRefused (_ : Str) : GateError :=
  invalidEffect (lit "idempotency_key must be bounded non-empty text")

def boundedKey (value name : Str) : Except GateError Unit :=
  raiseIf (boundedText 512 value = false) (keyRefused name)

def readBool (fields : JsonFields) (name : String) : Except GateError Bool :=
  match valueAt fields (lit name) with
  | .bool b => .ok b
  | _ => .error (invalidEffect (lit name ++ lit " must be a boolean"))

def parseEffectContract (value : Json) : Except GateError EffectContract :=
  match value with
  | .obj fields => do
    raiseIf (keysAre fields contractFields = false)
      (invalidEffect (lit "effect contract payload is invalid"))
    let effectId ← readIdentifier fields "effect_id"
    let effectType ← readIdentifier fields "effect_type"
    let requestedByEventId ← readIdentifier fields "requested_by_event_id"
    let authorizationEventId ← readIdentifier fields "authorization_event_id"
    let idempotencyKey ← readText boundedKey keyRefused fields "idempotency_key"
    let inputArtifactSha256 ← readDigest fields "input_artifact_sha256"
    let compensationSupported ← readBool fields "compensation_supported"
    ContractRecord.construct
      { effectId, effectType, idempotencyKey, requestedByEventId, inputArtifactSha256,
        authorizationEventId, compensationSupported }
  | _ => .error (invalidEffect (lit "effect contract payload is invalid"))

end Contracts

section References

deriving instance DecidableEq for CompletionOutboxDelivery

structure EffectRequestedRef (sha : Sha256) where
  effect : EffectContract
  outboxEvent : Option (CompletionOutboxEvent sha)
  initialDelivery : Option (CompletionOutboxDelivery sha)
  deriving DecidableEq

def EffectRequestedRef.check (r : EffectRequestedRef sha) : Except GateError Unit :=
  match r.outboxEvent, r.initialDelivery with
  | none, none => .ok ()
  | some event, some delivery => do
    let expected ← buildInitialDelivery event
    raiseIf (delivery ≠ expected ∨ r.effect.effectId ≠ event.eventId ∨
        r.effect.effectType ≠ lit "completion_notification" ∨
        r.effect.idempotencyKey ≠ event.eventId ∨
        r.effect.inputArtifactSha256 ≠ event.outcomeDescriptorSha256)
      (invalidEffect (lit "completion effect does not match the outbox authority"))
  | _, _ => .error (invalidEffect (lit "outbox event and initial delivery must be paired"))

def EffectRequestedRef.toDict (r : EffectRequestedRef sha) : Json :=
  .obj [(lit "contract_version", .str contractVersion), (lit "effect", r.effect.toDict),
    (lit "outbox_event", r.outboxEvent.elim .null CompletionOutboxEvent.toDict),
    (lit "initial_delivery", r.initialDelivery.elim .null CompletionOutboxDelivery.revisionDict)]

structure EffectDeliveryTransitionRef (sha : Sha256) where
  effectId : Str
  outboxEventId : Str
  previousDelivery : CompletionOutboxDelivery sha
  delivery : CompletionOutboxDelivery sha
  deriving DecidableEq

def EffectDeliveryTransitionRef.check (r : EffectDeliveryTransitionRef sha) :
    Except GateError Unit := do
  identifier r.effectId (lit "effect_id")
  identifier r.outboxEventId (lit "outbox_event_id")
  orInvalidEffect (verifyTransition r.previousDelivery r.delivery)
    "effect delivery transition is invalid"
  raiseIf (r.effectId ≠ r.outboxEventId ∨ r.previousDelivery.eventId ≠ r.outboxEventId ∨
      r.delivery.eventId ≠ r.outboxEventId)
    (invalidEffect (lit "effect delivery transition identity is invalid"))

def EffectDeliveryTransitionRef.toDict (r : EffectDeliveryTransitionRef sha) : Json :=
  .obj [(lit "contract_version", .str contractVersion), (lit "effect_id", .str r.effectId),
    (lit "outbox_event_id", .str r.outboxEventId),
    (lit "previous_delivery", r.previousDelivery.revisionDict),
    (lit "delivery", r.delivery.revisionDict)]

structure EffectCompensationRequestedRef where
  originalEffectId : Str
  originalTerminalEventId : Str
  compensationEffect : EffectContract
  deriving DecidableEq

def EffectCompensationRequestedRef.check (r : EffectCompensationRequestedRef) :
    Except GateError Unit := do
  identifier r.originalEffectId (lit "original_effect_id")
  identifier r.originalTerminalEventId (lit "original_terminal_event_id")
  raiseIf (r.compensationEffect.effectId = r.originalEffectId ∨
      r.compensationEffect.requestedByEventId ≠ r.originalTerminalEventId)
    (invalidEffect (lit "compensation must be a distinct causally linked effect"))

def EffectCompensationRequestedRef.toDict (r : EffectCompensationRequestedRef) : Json :=
  .obj [(lit "contract_version", .str contractVersion),
    (lit "original_effect_id", .str r.originalEffectId),
    (lit "original_terminal_event_id", .str r.originalTerminalEventId),
    (lit "compensation_effect", r.compensationEffect.toDict)]

structure EffectCompensatedRef where
  originalEffectId : Str
  compensationEffectId : Str
  compensationRequestEventId : Str
  deriving DecidableEq

def EffectCompensatedRef.check (r : EffectCompensatedRef) : Except GateError Unit := do
  checkEach (fun f => identifier f.2 f.1)
    [(lit "original_effect_id", r.originalEffectId),
      (lit "compensation_effect_id", r.compensationEffectId),
      (lit "compensation_request_event_id", r.compensationRequestEventId)]
  raiseIf (r.originalEffectId = r.compensationEffectId)
    (invalidEffect (lit "compensation effect must differ from the original effect"))

def EffectCompensatedRef.toDict (r : EffectCompensatedRef) : Json :=
  .obj [(lit "contract_version", .str contractVersion),
    (lit "original_effect_id", .str r.originalEffectId),
    (lit "compensation_effect_id", .str r.compensationEffectId),
    (lit "compensation_request_event_id", .str r.compensationRequestEventId)]

end References

section ProviderTransitions

inductive ProviderEffectStage where
  | attemptStarted
  | requestSubmitted
  | resultUnknown
  | receiptRecorded
  | reconciled
  | retryScheduled
  | deadLettered
  deriving DecidableEq

def ProviderEffectStage.text : ProviderEffectStage → Str
  | attemptStarted => lit "attempt_started"
  | requestSubmitted => lit "request_submitted"
  | resultUnknown => lit "result_unknown"
  | receiptRecorded => lit "receipt_recorded"
  | reconciled => lit "reconciled"
  | retryScheduled => lit "retry_scheduled"
  | deadLettered => lit "dead_lettered"

def providerEffectStages : List ProviderEffectStage :=
  [.attemptStarted, .requestSubmitted, .resultUnknown, .receiptRecorded, .reconciled,
    .retryScheduled, .deadLettered]

inductive ProviderReconciliationResult where
  | confirmed
  | notFound
  | stillUnknown
  deriving DecidableEq

def ProviderReconciliationResult.text : ProviderReconciliationResult → Str
  | confirmed => lit "confirmed"
  | notFound => lit "not_found"
  | stillUnknown => lit "still_unknown"

def providerReconciliationResults : List ProviderReconciliationResult :=
  [.confirmed, .notFound, .stillUnknown]

structure ProviderEffectTransitionRef where
  effectId : Str
  attemptId : Str
  attemptSequence : Nat
  providerInvocationId : Str
  stage : ProviderEffectStage
  providerId : Str
  modelId : Str
  modelVersion : Str
  endpointId : Str
  requestSha256 : Str
  providerRequestId : Option Str := none
  responseSha256 : Option Str := none
  providerReceiptId : Option Str := none
  errorCode : Option Str := none
  reconciliationSequence : Option Nat := none
  reconciliationId : Option Str := none
  reconciliationResult : Option ProviderReconciliationResult := none
  retryAt : Option Str := none
  deriving DecidableEq

def jsonSequence (n : Option Nat) : Json := n.elim .null jsonInt

def jsonResult (r : Option ProviderReconciliationResult) : Json :=
  r.elim .null (fun result => .str result.text)

def providerEffectReconciliationId (sha : Sha256) (invocationId : Str) (sequence : Nat)
    (result : ProviderReconciliationResult) (requestId responseSha256 receiptId : Option Str) : Str :=
  lit "provider_reconciliation_sha256_" ++
    sha.hexdigest (lit "tbm.provider-effect-reconciliation.v1\x00")
      (.obj [(lit "provider_invocation_id", .str invocationId),
        (lit "reconciliation_sequence", jsonInt sequence),
        (lit "reconciliation_result", .str result.text),
        (lit "provider_request_id", jsonOptional requestId),
        (lit "response_sha256", jsonOptional responseSha256),
        (lit "provider_receipt_id", jsonOptional receiptId)])

namespace ProviderEffectTransitionRef

def unsignedDict (r : ProviderEffectTransitionRef) : JsonFields :=
  [(lit "effect_id", .str r.effectId), (lit "attempt_id", .str r.attemptId),
    (lit "attempt_sequence", jsonInt r.attemptSequence),
    (lit "provider_invocation_id", .str r.providerInvocationId),
    (lit "stage", .str r.stage.text), (lit "provider_id", .str r.providerId),
    (lit "model_id", .str r.modelId), (lit "model_version", .str r.modelVersion),
    (lit "endpoint_id", .str r.endpointId), (lit "request_sha256", .str r.requestSha256),
    (lit "provider_request_id", jsonOptional r.providerRequestId),
    (lit "response_sha256", jsonOptional r.responseSha256),
    (lit "provider_receipt_id", jsonOptional r.providerReceiptId),
    (lit "error_code", jsonOptional r.errorCode),
    (lit "reconciliation_sequence", jsonSequence r.reconciliationSequence),
    (lit "reconciliation_id", jsonOptional r.reconciliationId),
    (lit "reconciliation_result", jsonResult r.reconciliationResult),
    (lit "retry_at", jsonOptional r.retryAt)]

def transitionId (sha : Sha256) (r : ProviderEffectTransitionRef) : Str :=
  lit "provider_transition_sha256_" ++
    sha.hexdigest (lit "tbm.provider-effect-transition.v1\x00") (.obj r.unsignedDict)

def toDict (sha : Sha256) (r : ProviderEffectTransitionRef) : Json :=
  .obj ((lit "contract_version", .str contractVersion) ::
    (lit "transition_id", .str (r.transitionId sha)) :: r.unsignedDict)

def receiptId (sha : Sha256) (r : ProviderEffectTransitionRef) : Option Str := do
  let requestId ← r.providerRequestId
  let response ← r.responseSha256
  return providerEffectReceiptId sha r.providerInvocationId requestId response

def stageInvalid (r : ProviderEffectTransitionRef) : GateError :=
  invalidEffect (r.stage.text ++ lit " provider transition is invalid")

def carriesReceipt (r : ProviderEffectTransitionRef) : Bool :=
  r.responseSha256.isSome || r.providerReceiptId.isSome

def carriesReconciliation (r : ProviderEffectTransitionRef) : Bool :=
  r.reconciliationSequence.isSome || r.reconciliationId.isSome || r.reconciliationResult.isSome

def verifyReconciled (sha : Sha256) (r : ProviderEffectTransitionRef) : Except GateError Unit := do
  let sequence ← demand r.reconciliationSequence r.stageInvalid
  let result ← demand r.reconciliationResult r.stageInvalid
  raiseIf (r.reconciliationId ≠ some (providerEffectReconciliationId sha r.providerInvocationId
      sequence result r.providerRequestId r.responseSha256 r.providerReceiptId) ∨
      r.errorCode.isSome = true ∨ r.retryAt.isSome = true) r.stageInvalid
  match result with
  | .confirmed =>
    raiseIf (r.receiptId sha = none ∨ r.providerReceiptId ≠ r.receiptId sha)
      (invalidEffect (lit "confirmed reconciliation requires an exact receipt"))
  | .notFound | .stillUnknown =>
    raiseIf (r.carriesReceipt = true)
      (invalidEffect (lit "non-confirmed reconciliation cannot carry a receipt"))

def verifyStageShape (sha : Sha256) (r : ProviderEffectTransitionRef) : Except GateError Unit :=
  match r.stage with
  | .attemptStarted =>
    raiseIf (r.providerRequestId.isSome = true ∨ r.carriesReceipt = true ∨
      r.errorCode.isSome = true ∨ r.carriesReconciliation = true ∨ r.retryAt.isSome = true)
      r.stageInvalid
  | .requestSubmitted =>
    raiseIf (r.providerRequestId = none ∨ r.carriesReceipt = true ∨ r.errorCode.isSome = true ∨
      r.carriesReconciliation = true ∨ r.retryAt.isSome = true) r.stageInvalid
  | .resultUnknown =>
    raiseIf (r.errorCode = none ∨ r.carriesReceipt = true ∨ r.carriesReconciliation = true ∨
      r.retryAt.isSome = true) r.stageInvalid
  | .receiptRecorded =>
    raiseIf (r.receiptId sha = none ∨ r.providerReceiptId ≠ r.receiptId sha ∨
      r.errorCode.isSome = true ∨ r.carriesReconciliation = true ∨ r.retryAt.isSome = true)
      r.stageInvalid
  | .reconciled => r.verifyReconciled sha
  | .retryScheduled =>
    raiseIf (r.retryAt = none ∨ r.carriesReceipt = true ∨ r.errorCode.isSome = true ∨
      r.carriesReconciliation = true) r.stageInvalid
  | .deadLettered =>
    raiseIf (r.errorCode = none ∨ r.providerRequestId.isSome = true ∨ r.carriesReceipt = true ∨
      r.carriesReconciliation = true ∨ r.retryAt.isSome = true) r.stageInvalid

def identityFields (r : ProviderEffectTransitionRef) : List (Str × Str) :=
  [(lit "effect_id", r.effectId), (lit "attempt_id", r.attemptId),
    (lit "provider_invocation_id", r.providerInvocationId), (lit "provider_id", r.providerId),
    (lit "model_id", r.modelId), (lit "model_version", r.modelVersion),
    (lit "endpoint_id", r.endpointId)]

def optionally {α : Type} (check : α → Except GateError Unit) (value : Option α) :
    Except GateError Unit :=
  value.elim (.ok ()) check

def check (sha : Sha256) (r : ProviderEffectTransitionRef) : Except GateError Unit := do
  checkEach (fun f => identifier f.2 f.1) r.identityFields
  checkSequence r.attemptSequence (lit "attempt_sequence")
  digest r.requestSha256 (lit "request_sha256")
  optionally (identifier · (lit "provider_request_id")) r.providerRequestId
  optionally (digest · (lit "response_sha256")) r.responseSha256
  optionally (identifier · (lit "provider_receipt_id")) r.providerReceiptId
  optionally (identifier · (lit "error_code")) r.errorCode
  optionally (fun n => checkSequence n (lit "reconciliation_sequence")) r.reconciliationSequence
  optionally (identifier · (lit "reconciliation_id")) r.reconciliationId
  optionally (timestamp · (lit "retry_at")) r.retryAt
  raiseIf (r.attemptId ≠ providerEffectAttemptId sha r.effectId r.attemptSequence)
    (invalidEffect (lit "attempt_id is not derived from the effect attempt"))
  raiseIf (r.providerInvocationId ≠ providerEffectInvocationId sha r.effectId r.attemptId
      r.providerId r.modelId r.modelVersion r.endpointId r.requestSha256)
    (invalidEffect (lit "provider_invocation_id is not content-derived"))
  r.verifyStageShape sha

end ProviderEffectTransitionRef

end ProviderTransitions

end Effects

end TraceBackedMemory
