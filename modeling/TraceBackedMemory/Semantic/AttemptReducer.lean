import TraceBackedMemory.Semantic.AttemptBuilding

namespace TraceBackedMemory

open Text Raising Projection

namespace SemanticGate

variable {sha : Sha256}

section States

structure SystemParent where
  record : GateEvidenceRecordRef
  eventId : Str
  eventSha256 : Str
  globalPosition : Nat
  scope : EventScope
  authorizationDecisionId : Str
  deriving DecidableEq

structure ProjectedAttempt where
  record : AttemptEventRef
  eventId : Str
  eventSha256 : Str
  globalPosition : Nat
  authorizationDecisionId : Str
  previousStreamEventSha256 : Option Str
  scope : EventScope
  deriving DecidableEq

structure AttemptStream where
  sessionId : Str
  retrievalSnapshotId : Str
  systemGateEvaluationId : Str
  currentSequence : Nat
  currentAttemptId : Str
  scope : EventScope
  authorizationDecisionId : Str
  deriving DecidableEq

structure AttemptHead where
  eventId : Str
  eventSha256 : Str
  globalPosition : Nat
  streamVersion : Nat
  scope : EventScope
  authorizationDecisionId : Str
  deriving DecidableEq

structure AttemptProjection where
  systemGateParents : Dict Str SystemParent := Dict.empty
  attempts : Dict Str ProjectedAttempt := Dict.empty
  streams : Dict Str AttemptStream := Dict.empty
  heads : Dict Str AttemptHead := Dict.empty

def initialProjection : AttemptProjection := {}

end States

section Transition

def rejectAttempt (message : String) : TransitionFault :=
  .reducer ⟨.reducerExecution, lit "TBM_SEMANTIC_GATE_ATTEMPT_REDUCER_EVENT_INVALID", lit message⟩

def verifyTyped (event : ReducerEvent sha) : Except TransitionFault Unit :=
  match event.typedEvent with
  | none => .error (rejectAttempt "typed Semantic Gate projection input is required")
  | some typed =>
    raiseIf (typed.targetVersion ≠ 1 ∨ typed.eventType ≠ event.sourceEvent.eventType ∨
        typed.payload.pyEq event.sourceEvent.payload = false)
      (rejectAttempt "typed Semantic Gate projection input is invalid")

def parsedEvidence (e : CanonicalEvent sha) : Except TransitionFault GateEvidenceRecordRef :=
  match parseGateEvidenceEvent sha e.toEventEnvelope with
  | .ok r => .ok r
  | .error error =>
    .error (if error.code = lit "TBM_GATE_EVIDENCE_EVENT_INVALID"
      then rejectAttempt "System Gate parent event cannot update the projection" else .foreign)

def parsedAttempt (e : CanonicalEvent sha) : Except TransitionFault AttemptEventRef :=
  match parseSemanticGateAttemptEvent sha e.toEventEnvelope with
  | .ok r => .ok r
  | .error error =>
    .error (if error.code = lit "TBM_SEMANTIC_GATE_ATTEMPT_EVENT_INVALID"
      then rejectAttempt "Semantic Gate attempt event cannot update the projection" else .foreign)

def systemParentProjection (r : GateEvidenceRecordRef) (e : CanonicalEvent sha) : SystemParent :=
  ⟨r, e.eventId, e.eventSha256, e.globalPosition, eventScope e.toEventEnvelope,
    e.authorizationDecisionId⟩

def attemptProjection (r : AttemptEventRef) (e : CanonicalEvent sha) : ProjectedAttempt :=
  ⟨r, e.eventId, e.eventSha256, e.globalPosition, e.authorizationDecisionId,
    e.previousStreamEventSha256, eventScope e.toEventEnvelope⟩

def streamProjection (r : AttemptEventRef) (e : CanonicalEvent sha) : AttemptStream :=
  ⟨r.sessionId, r.retrievalSnapshotId, r.systemGateEvaluationId, r.sequence, r.attemptId,
    eventScope e.toEventEnvelope, e.authorizationDecisionId⟩

def headProjection (e : CanonicalEvent sha) : AttemptHead :=
  ⟨e.eventId, e.eventSha256, e.globalPosition, e.streamVersion, eventScope e.toEventEnvelope,
    e.authorizationDecisionId⟩

def applySystemGate (s : AttemptProjection) (e : CanonicalEvent sha) :
    Except TransitionFault AttemptProjection := do
  let r ← parsedEvidence e
  raiseIf (r.evidenceKind ≠ .systemGateEvaluation ∨ s.systemGateParents.contains r.recordId = true)
    (rejectAttempt "System Gate parent appears more than once")
  return { s with
    systemGateParents := s.systemGateParents.set r.recordId (systemParentProjection r e) }

def verifyFirstAttempt (s : AttemptProjection) (r : AttemptEventRef) (e : CanonicalEvent sha) :
    Except TransitionFault Unit := do
  let parent ← demand (s.systemGateParents.get? r.systemGateEvaluationId)
    (rejectAttempt "System Gate parent projection state is invalid")
  raiseIf ((s.streams.get? r.streamId).isSome = true ∨ s.heads.contains r.streamId = true ∨
      parent.record.sessionId ≠ r.sessionId ∨
      parent.record.retrievalSnapshotId ≠ some r.retrievalSnapshotId ∨
      parent.eventId ≠ r.causationEventId ∨ e.globalPosition ≤ parent.globalPosition ∨
      parent.scope ≠ eventScope e.toEventEnvelope)
    (rejectAttempt "first Semantic Gate attempt has no exact System Gate parent")

def verifyRetry (s : AttemptProjection) (r : AttemptEventRef) (e : CanonicalEvent sha) :
    Except TransitionFault Unit := do
  let stream ← demand (s.streams.get? r.streamId)
    (rejectAttempt "Semantic Gate attempt stream projection state is invalid")
  let head ← demand (s.heads.get? r.streamId)
    (rejectAttempt "Semantic Gate attempt head projection state is invalid")
  raiseIf (stream.sessionId ≠ r.sessionId ∨ stream.retrievalSnapshotId ≠ r.retrievalSnapshotId ∨
      stream.systemGateEvaluationId ≠ r.systemGateEvaluationId ∨
      (stream.currentSequence : Int) ≠ (r.sequence : Int) - 1 ∨
      some stream.currentAttemptId ≠ r.previousAttemptId ∨ head.eventId ≠ r.causationEventId ∨
      some head.eventSha256 ≠ e.previousStreamEventSha256 ∨ e.globalPosition ≤ head.globalPosition ∨
      stream.scope ≠ eventScope e.toEventEnvelope)
    (rejectAttempt "Semantic Gate retry does not extend the current head")

def verifyChainLink (s : AttemptProjection) (r : AttemptEventRef) (e : CanonicalEvent sha) :
    Except TransitionFault Unit :=
  if r.sequence = 1 then verifyFirstAttempt s r e else verifyRetry s r e

def recordAttempt (s : AttemptProjection) (r : AttemptEventRef) (e : CanonicalEvent sha) :
    AttemptProjection :=
  { s with
    attempts := s.attempts.set r.attemptId (attemptProjection r e)
    streams := s.streams.set r.streamId (streamProjection r e)
    heads := s.heads.set r.streamId (headProjection e) }

def applyAttempt (s : AttemptProjection) (e : CanonicalEvent sha) :
    Except TransitionFault AttemptProjection := do
  let r ← parsedAttempt e
  raiseIf (s.attempts.contains r.attemptId = true)
    (rejectAttempt "Semantic Gate attempt appears more than once")
  verifyChainLink s r e
  return recordAttempt s r e

def transition (s : AttemptProjection) (event : ReducerEvent sha) :
    Except TransitionFault AttemptProjection := do
  verifyTyped event
  if event.sourceEvent.eventType = systemGateEvaluatedEvent then applySystemGate s event.sourceEvent
  else applyAttempt s event.sourceEvent

end Transition

end SemanticGate

end TraceBackedMemory
