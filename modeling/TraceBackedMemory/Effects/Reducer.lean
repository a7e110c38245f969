import TraceBackedMemory.Effects.Parsing
import TraceBackedMemory.Projection.Reducer

namespace TraceBackedMemory

open Text Raising Projection

open Outbox (CompletionOutboxEvent CompletionOutboxDelivery)

namespace Effects

variable {sha : Sha256}

section States

inductive EffectStatus where
  | ready
  | leased
  | retry
  | deadLetter
  | succeeded
  | compensated
  deriving DecidableEq

inductive ProviderStatus where
  | notStarted
  | inFlight
  | submitted
  | unknown
  | notFound
  | retryWait
  | deadLettered
  | succeeded
  deriving DecidableEq

structure EventMetadata where
  eventId : Str
  eventType : Str
  eventSha256 : Str
  globalPosition : Nat
  streamId : Str
  streamVersion : Nat
  authorizationDecisionId : Str
  authority : List Str
  actorType : EventActorType
  actorId : Str
  deriving DecidableEq

def eventMetadata (e : CanonicalEvent sha) : EventMetadata where
  eventId := e.eventId
  eventType := e.eventType
  eventSha256 := e.eventSha256
  globalPosition := e.globalPosition
  streamId := e.streamId
  streamVersion := e.streamVersion
  authorizationDecisionId := e.authorizationDecisionId
  authority := authority e.toEventEnvelope
  actorType := e.actorType
  actorId := e.actorId

structure TransitionEntry where
  transition : ProviderEffectTransitionRef
  metadata : EventMetadata
  deriving DecidableEq

structure ProviderAttempt where
  attemptId : Str
  attemptSequence : Nat
  providerInvocationId : Str
  providerId : Str
  modelId : Str
  modelVersion : Str
  endpointId : Str
  requestSha256 : Str
  status : ProviderStatus
  providerRequestId : Option Str := none
  responseSha256 : Option Str := none
  providerReceiptId : Option Str := none
  errorCode : Option Str := none
  retryAt : Option Str := none
  reconciliations : List TransitionEntry := []
  history : List TransitionEntry
  deriving DecidableEq

structure DeliveryEntry (sha : Sha256) where
  delivery : CompletionOutboxDelivery sha
  metadata : EventMetadata
  deriving DecidableEq

structure EffectEntry (sha : Sha256) where
  effect : EffectContract
  outboxEvent : Option (CompletionOutboxEvent sha)
  status : EffectStatus
  attemptCount : Nat
  delivery : Option (CompletionOutboxDelivery sha)
  deliveryHistory : List (DeliveryEntry sha)
  history : List EventMetadata
  pendingFailure : Option (EffectDeliveryTransitionRef sha)
  compensationEffectId : Option Str
  compensationForEffectId : Option Str
  providerStatus : ProviderStatus
  providerAttempts : List ProviderAttempt
  providerTransitions : List TransitionEntry
  providerRetryAt : Option Str
  metadata : EventMetadata
  deriving DecidableEq

structure EffectQueue (sha : Sha256) where
  effects : Dict Str (EffectEntry sha)
  heads : Dict Str EventMetadata

def initialQueue : EffectQueue sha := ⟨Dict.empty, Dict.empty⟩

end States

section Faults

def rejectEffect (message : String) : TransitionFault :=
  .reducer ⟨.reducerExecution, lit "TBM_EFFECT_REDUCER_EVENT_INVALID", lit message⟩

def effectFault (message : String) (e : GateError) : TransitionFault :=
  if e.code = lit "TBM_EFFECT_EVENT_INVALID" then rejectEffect message else .foreign

def parsedOr {α : Type} (message : String) (x : Except GateError α) : Except TransitionFault α :=
  match x with
  | .ok a => .ok a
  | .error e => .error (effectFault message e)

def validateTyped (event : ReducerEvent sha) : Except TransitionFault Unit :=
  match event.typedEvent with
  | none => .error (rejectEffect "typed effect event is invalid")
  | some typed =>
    raiseIf (typed.targetVersion ≠ 1 ∨ typed.eventType ≠ event.sourceEvent.eventType ∨
        typed.payload.pyEq event.sourceEvent.payload = false)
      (rejectEffect "typed effect event is invalid")

def effectEntry (q : EffectQueue sha) (effectId : Str) : Except TransitionFault (EffectEntry sha) :=
  demand (q.effects.get? effectId) (rejectEffect "effect projection state is invalid")

def headExtends (head : EventMetadata) (e : CanonicalEvent sha) (actorTypes : List EventActorType)
    (includeAuthorization : Bool) : Bool :=
  decide (head.streamVersion + 1 = e.streamVersion ∧ some head.eventId = e.causationId ∧
    some head.eventSha256 = e.previousStreamEventSha256 ∧ head.globalPosition < e.globalPosition ∧
    head.authority = authority e.toEventEnvelope ∧
    (includeAuthorization = true → head.authorizationDecisionId = e.authorizationDecisionId) ∧
    e.actorType ∈ actorTypes)

def scopeMatches (m : EventMetadata) (e : CanonicalEvent sha) (includeAuthorization : Bool) : Bool :=
  decide (m.authority = authority e.toEventEnvelope ∧ m.actorType = e.actorType ∧
    m.actorId = e.actorId ∧
    (includeAuthorization = true → m.authorizationDecisionId = e.authorizationDecisionId))

end Faults

section Deliveries

def EffectEntry.deliver (x : EffectEntry sha) (e : CanonicalEvent sha)
    (delivery : CompletionOutboxDelivery sha) (status : EffectStatus) : EffectEntry sha :=
  { x with
    status := status
    attemptCount := delivery.attemptCount
    delivery := some delivery
    pendingFailure := none
    deliveryHistory := x.deliveryHistory ++ [⟨delivery, eventMetadata e⟩] }

def EffectEntry.record (x : EffectEntry sha) (e : CanonicalEvent sha) : EffectEntry sha :=
  { x with history := x.history ++ [eventMetadata e], metadata := eventMetadata e }

def deliverEvent (x : EffectEntry sha) (e : CanonicalEvent sha)
    (r : EffectDeliveryTransitionRef sha) : Except TransitionFault (EffectEntry sha) :=
  if e.eventType = effectFailedEvent then do
    raiseIf (x.status ≠ .leased ∨ x.pendingFailure ≠ none)
      (rejectEffect "EffectFailed requires one active local delivery lease")
    return { x with pendingFailure := some r }
  else if e.eventType ∈ [effectRetryScheduledEvent, effectDeadLetteredEvent] then do
    raiseIf (x.pendingFailure ≠ some r)
      (rejectEffect "failure disposition does not match EffectFailed")
    return x.deliver e r.delivery
      (if e.eventType = effectRetryScheduledEvent then .retry else .deadLetter)
  else if e.eventType = effectStartedEvent then do
    raiseIf (x.status ∉ [EffectStatus.ready, .retry, .leased] ∨ x.pendingFailure ≠ none)
      (rejectEffect "EffectStarted cannot extend the current effect state")
    return x.deliver e r.delivery .leased
  else do
    raiseIf (x.status ≠ .leased ∨ x.pendingFailure ≠ none)
      (rejectEffect "EffectSucceeded requires one active local delivery lease")
    return x.deliver e r.delivery .succeeded

def applyDeliveryTransition (x : EffectEntry sha) (e : CanonicalEvent sha)
    (r : EffectDeliveryTransitionRef sha) : Except TransitionFault (EffectEntry sha) := do
  let current ← demand x.delivery
    (rejectEffect "projected completion delivery projection state is invalid")
  raiseIf (r.previousDelivery ≠ current)
    (rejectEffect "effect delivery transition does not extend the projected row")
  let updated ← deliverEvent x e r
  return updated.record e

end Deliveries

section Providers

def verifyProviderAttemptIdentity (a : ProviderAttempt) (r : ProviderEffectTransitionRef) :
    Except TransitionFault Unit :=
  raiseIf (a.attemptId ≠ r.attemptId ∨ a.attemptSequence ≠ r.attemptSequence ∨
      a.providerInvocationId ≠ r.providerInvocationId ∨ a.providerId ≠ r.providerId ∨
      a.modelId ≠ r.modelId ∨ a.modelVersion ≠ r.modelVersion ∨ a.endpointId ≠ r.endpointId ∨
      a.requestSha256 ≠ r.requestSha256)
    (rejectEffect "provider attempt identity or provenance changed")

def verifyRetrySchedule (previous : ProviderAttempt) (e : CanonicalEvent sha) :
    Except TransitionFault Unit := do
  raiseIf (previous.status ≠ .retryWait)
    (rejectEffect "provider retry does not follow an explicit schedule")
  let retryAt ← demand previous.retryAt
    (rejectEffect "provider retry does not follow an explicit schedule")
  let occurred ← demand (e.occurredAt.bind instant?)
    (rejectEffect "provider retry schedule is invalid")
  let scheduled ← demand (instant? retryAt) (rejectEffect "provider retry schedule is invalid")
  raiseIf (occurred < scheduled) (rejectEffect "provider retry started before its scheduled time")

def startAttempt (x : EffectEntry sha) (e : CanonicalEvent sha) (r : ProviderEffectTransitionRef)
    (entry : TransitionEntry) : Except TransitionFault (EffectEntry sha) := do
  raiseIf (x.providerStatus ∉ [ProviderStatus.notStarted, .retryWait] ∨ x.status = .deadLetter ∨
      r.attemptSequence ≠ x.providerAttempts.length + 1)
    (rejectEffect "provider attempt cannot start from the current state")
  x.providerAttempts.getLast?.elim (.ok ()) (fun previous => verifyRetrySchedule previous e)
  let attempt : ProviderAttempt :=
    { attemptId := r.attemptId
      attemptSequence := r.attemptSequence
      providerInvocationId := r.providerInvocationId
      providerId := r.providerId
      modelId := r.modelId
      modelVersion := r.modelVersion
      endpointId := r.endpointId
      requestSha256 := r.requestSha256
      status := .inFlight
      history := [entry] }
  return { x with
    providerAttempts := x.providerAttempts ++ [attempt]
    providerStatus := .inFlight
    providerRetryAt := none }

-- An effect without an outbox has no delivery of its own, so the provider's success ends it.
def EffectEntry.confirm (x : EffectEntry sha) : EffectEntry sha :=
  { x with
    providerStatus := .succeeded
    status := if x.outboxEvent = none then .succeeded else x.status }

def ProviderAttempt.succeed (a : ProviderAttempt) (r : ProviderEffectTransitionRef) : ProviderAttempt :=
  { a with
    status := .succeeded
    providerRequestId := r.providerRequestId
    responseSha256 := r.responseSha256
    providerReceiptId := r.providerReceiptId
    errorCode := none }

def reconcileAttempt (x : EffectEntry sha) (a : ProviderAttempt) (r : ProviderEffectTransitionRef)
    (entry : TransitionEntry) : Except TransitionFault (EffectEntry sha × ProviderAttempt) := do
  raiseIf (a.status ≠ .unknown)
    (rejectEffect "provider reconciliation requires an unknown result")
  raiseIf (r.reconciliationSequence ≠ some (a.reconciliations.length + 1))
    (rejectEffect "provider reconciliation sequence is not contiguous")
  let reconciled : ProviderAttempt :=
    { a with
      providerRequestId := r.providerRequestId.or a.providerRequestId
      reconciliations := a.reconciliations ++ [entry] }
  match r.reconciliationResult with
  | some .confirmed => return (x.confirm, reconciled.succeed r)
  | some .notFound =>
    return ({ x with providerStatus := .notFound }, { reconciled with status := .notFound })
  | _ => return ({ x with providerStatus := .unknown }, reconciled)

def continueAttempt (x : EffectEntry sha) (a : ProviderAttempt) (r : ProviderEffectTransitionRef)
    (entry : TransitionEntry) : Except TransitionFault (EffectEntry sha × ProviderAttempt) :=
  match r.stage with
  | .attemptStarted => .error (rejectEffect "provider attempt cannot start from the current state")
  | .requestSubmitted => do
    raiseIf (a.status ≠ .inFlight)
      (rejectEffect "provider submission does not follow attempt start")
    return ({ x with providerStatus := .submitted },
      { a with status := .submitted, providerRequestId := r.providerRequestId })
  | .resultUnknown => do
    raiseIf (a.status ∉ [ProviderStatus.inFlight, .submitted])
      (rejectEffect "unknown provider result has no active attempt")
    return ({ x with providerStatus := .unknown },
      { a with
        status := .unknown
        providerRequestId := r.providerRequestId.or a.providerRequestId
        errorCode := r.errorCode })
  | .receiptRecorded => do
    raiseIf (a.status ∉ [ProviderStatus.inFlight, .submitted])
      (rejectEffect "provider receipt has no unresolved attempt")
    return (x.confirm, a.succeed r)
  | .reconciled => reconcileAttempt x a r entry
  | .retryScheduled => do
    raiseIf (a.status ≠ .notFound ∨ x.providerStatus ≠ .notFound)
      (rejectEffect "provider retry requires a reconciled not-found result")
    return ({ x with providerStatus := .retryWait, providerRetryAt := r.retryAt },
      { a with status := .retryWait, retryAt := r.retryAt })
  | .deadLettered => do
    raiseIf (a.status ≠ .notFound ∨ x.providerStatus ≠ .notFound)
      (rejectEffect "provider dead-letter requires a not-found result")
    return ({ x with providerStatus := .deadLettered, status := .deadLetter, providerRetryAt := none },
      { a with status := .deadLettered, errorCode := r.errorCode })

def advanceAttempt (x : EffectEntry sha) (r : ProviderEffectTransitionRef) (entry : TransitionEntry) :
    Except TransitionFault (EffectEntry sha) := do
  let a ← demand x.providerAttempts.getLast?
    (rejectEffect "provider transition requires an existing attempt")
  verifyProviderAttemptIdentity a r
  raiseIf (a.providerRequestId ≠ none ∧ r.providerRequestId ≠ none ∧
      a.providerRequestId ≠ r.providerRequestId)
    (rejectEffect "provider request ID changed within one attempt")
  let (x', a') ← continueAttempt x a r entry
  return { x' with
    providerAttempts := x'.providerAttempts.dropLast ++ [{ a' with history := a'.history ++ [entry] }] }

def applyStage (x : EffectEntry sha) (e : CanonicalEvent sha) (r : ProviderEffectTransitionRef)
    (entry : TransitionEntry) : Except TransitionFault (EffectEntry sha) :=
  if r.stage = .attemptStarted then startAttempt x e r entry else advanceAttempt x r entry

def applyProviderTransition (x : EffectEntry sha) (e : CanonicalEvent sha)
    (r : ProviderEffectTransitionRef) : Except TransitionFault (EffectEntry sha) := do
  raiseIf (r.requestSha256 ≠ x.effect.inputArtifactSha256)
    (rejectEffect "provider request digest differs from the effect contract")
  raiseIf (x.status ∈ [EffectStatus.succeeded, .compensated])
    (rejectEffect "provider transition cannot reopen a terminal effect")
  raiseIf (x.pendingFailure ≠ none)
    (rejectEffect "provider transition cannot interrupt failure disposition")
  let entry : TransitionEntry := ⟨r, eventMetadata e⟩
  let updated ← applyStage x e r entry
  return { updated with
    providerTransitions := updated.providerTransitions ++ [entry]
    history := updated.history ++ [eventMetadata e]
    metadata := eventMetadata e }

end Providers

section Transition

def requestedEntry (e : CanonicalEvent sha) (r : EffectRequestedRef sha) : EffectEntry sha where
  effect := r.effect
  outboxEvent := r.outboxEvent
  status := .ready
  attemptCount := r.initialDelivery.elim 0 (fun d => d.attemptCount)
  delivery := r.initialDelivery
  deliveryHistory := r.initialDelivery.toList.map (fun d => ⟨d, eventMetadata e⟩)
  history := [eventMetadata e]
  pendingFailure := none
  compensationEffectId := none
  compensationForEffectId := none
  providerStatus := .notStarted
  providerAttempts := []
  providerTransitions := []
  providerRetryAt := none
  metadata := eventMetadata e

def compensationEntry (e : CanonicalEvent sha) (r : EffectCompensationRequestedRef) :
    EffectEntry sha where
  effect := r.compensationEffect
  outboxEvent := none
  status := .ready
  attemptCount := 0
  delivery := none
  deliveryHistory := []
  history := [eventMetadata e]
  pendingFailure := none
  compensationEffectId := none
  compensationForEffectId := some r.originalEffectId
  providerStatus := .notStarted
  providerAttempts := []
  providerTransitions := []
  providerRetryAt := none
  metadata := eventMetadata e

def requestEffect (q : EffectQueue sha) (e : CanonicalEvent sha) :
    Except TransitionFault (EffectQueue sha) := do
  let r ← parsedOr "EffectRequested cannot update the projection" (parseEffectRequestedEvent e)
  raiseIf (q.effects.contains r.effect.effectId = true ∨ q.heads.contains e.streamId = true)
    (rejectEffect "EffectRequested appears more than once")
  return ⟨q.effects.set r.effect.effectId (requestedEntry e r),
    q.heads.set e.streamId (eventMetadata e)⟩

def streamHead (q : EffectQueue sha) (e : CanonicalEvent sha) (message : String) :
    Except TransitionFault EventMetadata :=
  demand (q.heads.get? e.streamId) (rejectEffect message)

def deliverEffect (q : EffectQueue sha) (e : CanonicalEvent sha) :
    Except TransitionFault (EffectQueue sha) := do
  let r ← parsedOr "effect delivery event cannot update the projection" (deliveryReference e)
  let x ← effectEntry q r.effectId
  let head ← streamHead q e "effect stream head projection state is invalid"
  raiseIf (headExtends head e [.worker] true = false)
    (rejectEffect "effect delivery event has no exact stream parent")
  let updated ← applyDeliveryTransition x e r
  return ⟨q.effects.set r.effectId updated, q.heads.set e.streamId (eventMetadata e)⟩

def transferEffect (q : EffectQueue sha) (e : CanonicalEvent sha) :
    Except TransitionFault (EffectQueue sha) := do
  let r ← parsedOr "provider effect event cannot update the projection" (providerReference e)
  let x ← effectEntry q r.effectId
  let head ← streamHead q e "provider effect stream head projection state is invalid"
  raiseIf (headExtends head e [.service, .worker] false = false)
    (rejectEffect "provider effect event has no exact stream parent")
  let updated ← applyProviderTransition x e r
  return ⟨q.effects.set r.effectId updated, q.heads.set e.streamId (eventMetadata e)⟩

def requestCompensation (q : EffectQueue sha) (e : CanonicalEvent sha) :
    Except TransitionFault (EffectQueue sha) := do
  let r ← parsedOr "EffectCompensationRequested cannot update the projection"
    (parseEffectCompensationRequestedEvent e)
  let original ← effectEntry q r.originalEffectId
  raiseIf (q.effects.contains r.compensationEffect.effectId = true ∨
      q.heads.contains e.streamId = true ∨ original.status ≠ .succeeded ∨
      original.effect.compensationSupported = false ∨
      original.metadata.eventId ≠ r.originalTerminalEventId ∨
      e.causationId ≠ some r.originalTerminalEventId ∨ original.compensationEffectId ≠ none ∨
      scopeMatches original.metadata e true = false)
    (rejectEffect "EffectCompensationRequested has no compensable parent")
  let compensated : EffectEntry sha :=
    { original with
      compensationEffectId := some r.compensationEffect.effectId
      history := original.history ++ [eventMetadata e] }
  return ⟨(q.effects.set r.originalEffectId compensated).set r.compensationEffect.effectId
      (compensationEntry e r), q.heads.set e.streamId (eventMetadata e)⟩

def compensateEffect (q : EffectQueue sha) (e : CanonicalEvent sha) :
    Except TransitionFault (EffectQueue sha) := do
  let r ← parsedOr "EffectCompensated cannot update the projection" (parseEffectCompensatedEvent e)
  let compensation ← effectEntry q r.compensationEffectId
  let original ← effectEntry q r.originalEffectId
  let head ← streamHead q e "compensation stream head projection state is invalid"
  let request ← demand compensation.history.head?
    (rejectEffect "compensation request history projection state is invalid")
  raiseIf (headExtends head e [.service, .worker] false = false ∨
      compensation.status ≠ .succeeded ∨ compensation.providerStatus ≠ .succeeded ∨
      request.eventId ≠ r.compensationRequestEventId ∨
      compensation.compensationForEffectId ≠ some r.originalEffectId ∨
      original.status ≠ .succeeded ∨
      original.compensationEffectId ≠ some r.compensationEffectId ∨
      scopeMatches compensation.metadata e false = false)
    (rejectEffect "EffectCompensated has no exact compensation request")
  let compensation' : EffectEntry sha := { compensation.record e with status := .succeeded }
  let original' : EffectEntry sha :=
    { original with status := .compensated, history := original.history ++ [eventMetadata e] }
  return ⟨(q.effects.set r.compensationEffectId compensation').set r.originalEffectId original',
    q.heads.set e.streamId (eventMetadata e)⟩

def transition (q : EffectQueue sha) (event : ReducerEvent sha) :
    Except TransitionFault (EffectQueue sha) := do
  validateTyped event
  let e := event.sourceEvent
  if e.eventType = effectRequestedEvent then requestEffect q e
  else if e.eventType ∈ deliveryEventTypes then deliverEffect q e
  else if e.eventType = effectProviderTransitionEvent then transferEffect q e
  else if e.eventType = effectCompensationRequestedEvent then requestCompensation q e
  else if e.eventType = effectCompensatedEvent then compensateEffect q e
  else .error (rejectEffect "EffectQueue received an unrelated event")

def foldEffects (events : List (ReducerEvent sha)) : Except TransitionFault (EffectQueue sha) :=
  accumulate transition initialQueue events

end Transition

end Effects

end TraceBackedMemory
