import TraceBackedMemory.Publication.Events

namespace TraceBackedMemory

open Text Raising OrderBy Json

namespace Audit

open EventContract (TextHash)

open Migration (nullable)

open SemanticGate (taggedHex)

open Publication (derivedId)

section Checks

def auditMaxReferences : Nat := 64

def auditMaxSequence : Nat := 2147483647

def invalid (message : Str) : GateError := ⟨.contract, lit "TBM_AUDIT_INVALID", message⟩

def auditIdentifier (value name : Str) : Except GateError Unit :=
  raiseIf (Outbox.boundedText 128 value = false) (invalid (name ++ lit " must be a bounded identifier"))

def auditCode (value name : Str) : Except GateError Unit :=
  raiseIf (Outbox.boundedText 256 value = false) (invalid (name ++ lit " must be a bounded code"))

def auditDigest (value name : Str) : Except GateError Unit :=
  raiseIf (validDigest value = false) (invalid (name ++ lit " must be a canonical sha256 digest"))

def isEventId : Str → Bool := taggedHex "audit_event_sha256_"

def isRecoveryActionId : Str → Bool := taggedHex "recovery_action_sha256_"

def parseRfc3339 (value : Str) : Except GateError Int :=
  demand (instant? value)
    ⟨.contract, lit "ValueError", lit "value must be a timezone-aware RFC 3339 date-time string"⟩

def auditTimestamp (value name : Str) : Except GateError Int := do
  let parsed ← demand (instant? value) (invalid (name ++ lit (" must be a canonical RFC3339 timestamp: " ++
    "value must be a timezone-aware RFC 3339 date-time string")))
  let canonical ← demand (utcText? parsed) dateOutOfRange
  raiseIf (canonical ≠ value) (invalid (name ++ lit " must be canonical RFC3339"))
  return parsed

end Checks

section Enumerations

inductive AuditActorType where
  | principal | service | worker
  deriving DecidableEq

def AuditActorType.text : AuditActorType → Str
  | .principal => lit "principal"
  | .service => lit "service"
  | .worker => lit "worker"

inductive AuditEventType where
  | sessionCreated | sessionTransitioned | authorizationEvaluated | retrievalRecorded | systemGateEvaluated
  | semanticGateAttempted | decisionFinalized | injectionCreated | executionCompleted | outcomeAttributed
  | recoverySucceeded | recoveryFailed | sessionCanceled | sessionExpired | sessionAbandoned
  deriving DecidableEq

namespace AuditEventType

def text : AuditEventType → Str
  | .sessionCreated => lit "session_created"
  | .sessionTransitioned => lit "session_transitioned"
  | .authorizationEvaluated => lit "authorization_evaluated"
  | .retrievalRecorded => lit "retrieval_recorded"
  | .systemGateEvaluated => lit "system_gate_evaluated"
  | .semanticGateAttempted => lit "semantic_gate_attempted"
  | .decisionFinalized => lit "decision_finalized"
  | .injectionCreated => lit "injection_created"
  | .executionCompleted => lit "execution_completed"
  | .outcomeAttributed => lit "outcome_attributed"
  | .recoverySucceeded => lit "recovery_succeeded"
  | .recoveryFailed => lit "recovery_failed"
  | .sessionCanceled => lit "session_canceled"
  | .sessionExpired => lit "session_expired"
  | .sessionAbandoned => lit "session_abandoned"

def recovers (t : AuditEventType) : Prop := t = .recoverySucceeded ∨ t = .recoveryFailed

instance (t : AuditEventType) : Decidable t.recovers := inferInstanceAs (Decidable (_ ∨ _))

end AuditEventType

inductive AuditReferenceKind where
  | authorizationEvent | retrievalSnapshot | systemGateEvaluation | semanticGateAttempt | memoryRevision | decision
  | injectionArtifact | usageDecision | runOutcome | outcomeAttribution | recoveryAction
  deriving DecidableEq

def AuditReferenceKind.text : AuditReferenceKind → Str
  | .authorizationEvent => lit "authorization_event"
  | .retrievalSnapshot => lit "retrieval_snapshot"
  | .systemGateEvaluation => lit "system_gate_evaluation"
  | .semanticGateAttempt => lit "semantic_gate_attempt"
  | .memoryRevision => lit "memory_revision"
  | .decision => lit "decision"
  | .injectionArtifact => lit "injection_artifact"
  | .usageDecision => lit "usage_decision"
  | .runOutcome => lit "run_outcome"
  | .outcomeAttribution => lit "outcome_attribution"
  | .recoveryAction => lit "recovery_action"

inductive RecoveryTargetKind where
  | memoryRun | gateSession
  deriving DecidableEq

def RecoveryTargetKind.text : RecoveryTargetKind → Str
  | .memoryRun => lit "memory_run"
  | .gateSession => lit "gate_session"

inductive RecoveryActionKind where
  | measure | recover | recoverWithAttribution | investigate | cancelSession | expireSession | abandonSession
  deriving DecidableEq

namespace RecoveryActionKind

def text : RecoveryActionKind → Str
  | .measure => lit "measure"
  | .recover => lit "recover"
  | .recoverWithAttribution => lit "recover_with_attribution"
  | .investigate => lit "investigate"
  | .cancelSession => lit "cancel_session"
  | .expireSession => lit "expire_session"
  | .abandonSession => lit "abandon_session"

def target : RecoveryActionKind → RecoveryTargetKind
  | .measure | .recover | .recoverWithAttribution | .investigate => .memoryRun
  | .cancelSession | .expireSession | .abandonSession => .gateSession

end RecoveryActionKind

inductive RecoveryResult where
  | succeeded | failed
  deriving DecidableEq

def RecoveryResult.text : RecoveryResult → Str
  | .succeeded => lit "succeeded"
  | .failed => lit "failed"

def memoryRunStatuses : List Str :=
  [lit "pending", lit "trace_only", lit "decision_only", lit "complete", lit "conflict"]

end Enumerations

section Events

structure AuditReference where
  kind : AuditReferenceKind
  recordId : Str
  deriving DecidableEq

namespace AuditReference

def check (r : AuditReference) : Except GateError Unit := auditIdentifier r.recordId (lit "AuditReference record_id")

def toDict (r : AuditReference) : Json := .obj [(lit "kind", .str r.kind.text), (lit "record_id", .str r.recordId)]

def order (r : AuditReference) : Str ×ₗ Str := toLex (r.kind.text, r.recordId)

end AuditReference

def referenceTuple (references : List AuditReference) : Except GateError Unit := do
  raiseIf (auditMaxReferences < references.length) (invalid (lit "references must be a bounded tuple"))
  raiseIf (orderBy AuditReference.order references ≠ references ∨ ¬(references.map AuditReference.order).Nodup)
    (invalid (lit "references must be sorted and unique"))

structure AuditEvent where
  eventId : Str
  streamId : Str
  sequence : Nat
  previousEventId : Option Str
  tenantId : Str
  repositoryId : Str
  sessionId : Str
  traceId : Str
  runId : Str
  actorType : AuditActorType
  actorId : Str
  eventType : AuditEventType
  reasonCode : Str
  payloadSha256 : Str
  references : List AuditReference
  occurredAt : Str
  deriving DecidableEq

namespace AuditEvent

variable (e : AuditEvent)

def unsigned : Fields :=
  [(lit "contract_version", .str (lit "tbm.audit-event.v3")), (lit "stream_id", .str e.streamId),
    (lit "sequence", .num (.int e.sequence)), (lit "previous_event_id", nullable e.previousEventId),
    (lit "tenant_id", .str e.tenantId), (lit "repository_id", .str e.repositoryId),
    (lit "session_id", .str e.sessionId), (lit "trace_id", .str e.traceId), (lit "run_id", .str e.runId),
    (lit "actor_type", .str e.actorType.text), (lit "actor_id", .str e.actorId),
    (lit "event_type", .str e.eventType.text), (lit "reason_code", .str e.reasonCode),
    (lit "payload_sha256", .str e.payloadSha256), (lit "references", .arr (e.references.map AuditReference.toDict)),
    (lit "occurred_at", .str e.occurredAt)]

def toDict : Json := .obj ((lit "event_id", .str e.eventId) :: e.unsigned)

def auditEventId (hash : TextHash) (codec : FloatCodec) : Except GateError Str :=
  derivedId hash codec "audit_event_sha256_" (.obj e.unsigned)

def checkPrevious : Except GateError Unit :=
  if e.sequence = 1 then
    raiseIf (e.previousEventId ≠ none) (invalid (lit "first AuditEvent cannot name previous_event_id"))
  else
    raiseIf (e.previousEventId.any isEventId = false)
      (invalid (lit "non-first AuditEvent requires canonical previous_event_id"))

def check (hash : TextHash) (codec : FloatCodec) : Except GateError Unit := do
  checkEach AuditReference.check e.references
  raiseIf (isEventId e.eventId = false) (invalid (lit "event_id must be a canonical content identifier"))
  checkEach (fun f : Str × Str => auditIdentifier f.2 f.1)
    [(lit "stream_id", e.streamId), (lit "tenant_id", e.tenantId), (lit "repository_id", e.repositoryId),
      (lit "session_id", e.sessionId), (lit "trace_id", e.traceId), (lit "run_id", e.runId),
      (lit "actor_id", e.actorId)]
  raiseIf (e.sequence < 1 ∨ auditMaxSequence < e.sequence)
    (invalid (lit "sequence must be a bounded positive integer"))
  e.checkPrevious
  auditCode e.reasonCode (lit "reason_code")
  auditDigest e.payloadSha256 (lit "payload_sha256")
  referenceTuple e.references
  let _ ← auditTimestamp e.occurredAt (lit "occurred_at")
  let expected ← e.auditEventId hash codec
  raiseIf (e.eventId ≠ expected) (invalid (lit "event_id does not match canonical payload"))

def recoveryReferences : List Str :=
  (e.references.filter (fun r => decide (r.kind = .recoveryAction))).map AuditReference.recordId

end AuditEvent

def verifyAuditEventParent (event : AuditEvent) (parent : Option AuditEvent) : Except GateError Unit :=
  if event.sequence = 1 then
    raiseIf (parent ≠ none) (invalid (lit "first AuditEvent cannot have a parent"))
  else do
    let parent ← demand parent (invalid (lit "non-first AuditEvent requires its parent record"))
    raiseIf (event.previousEventId ≠ some parent.eventId)
      (invalid (lit "AuditEvent previous_event_id does not match parent"))
    raiseIf (event.sequence ≠ parent.sequence + 1) (invalid (lit "AuditEvent sequence must advance by one"))
    checkEach (fun f : Str × (AuditEvent → Str) => raiseIf (f.2 event ≠ f.2 parent)
        (invalid (lit "AuditEvent parent " ++ f.1 ++ lit " does not match")))
      [(lit "stream_id", AuditEvent.streamId), (lit "tenant_id", AuditEvent.tenantId),
        (lit "repository_id", AuditEvent.repositoryId), (lit "session_id", AuditEvent.sessionId),
        (lit "trace_id", AuditEvent.traceId), (lit "run_id", AuditEvent.runId)]
    let occurred ← parseRfc3339 event.occurredAt
    let before ← parseRfc3339 parent.occurredAt
    raiseIf (occurred < before) (invalid (lit "AuditEvent occurred_at precedes parent"))

end Events

section Recoveries

structure RecoveryAction where
  recoveryActionId : Str
  targetKind : RecoveryTargetKind
  action : RecoveryActionKind
  result : RecoveryResult
  sessionId : Str
  traceId : Str
  runId : Str
  usageDecisionId : Option Str
  expectedSessionVersion : Option Nat
  expectedMemoryRunStatus : Option Str
  memoryCausedFailure : Option Bool
  requestSha256 : Str
  requestedByPrincipalId : Str
  executorId : Str
  errorCode : Option Str
  startedAt : Str
  finishedAt : Str
  deriving DecidableEq

namespace RecoveryAction

variable (r : RecoveryAction)

def unsigned : Fields :=
  [(lit "contract_version", .str (lit "tbm.recovery-action.v3")), (lit "target_kind", .str r.targetKind.text),
    (lit "action", .str r.action.text), (lit "result", .str r.result.text), (lit "session_id", .str r.sessionId),
    (lit "trace_id", .str r.traceId), (lit "run_id", .str r.runId),
    (lit "usage_decision_id", nullable r.usageDecisionId),
    (lit "expected_session_version", r.expectedSessionVersion.elim .null (fun n => .num (.int n))),
    (lit "expected_memory_run_status", nullable r.expectedMemoryRunStatus),
    (lit "memory_caused_failure", r.memoryCausedFailure.elim .null .bool),
    (lit "request_sha256", .str r.requestSha256), (lit "requested_by_principal_id", .str r.requestedByPrincipalId),
    (lit "executor_id", .str r.executorId), (lit "error_code", nullable r.errorCode),
    (lit "started_at", .str r.startedAt), (lit "finished_at", .str r.finishedAt)]

def toDict : Json := .obj ((lit "recovery_action_id", .str r.recoveryActionId) :: r.unsigned)

def derivedActionId (hash : TextHash) (codec : FloatCodec) : Except GateError Str :=
  derivedId hash codec "recovery_action_sha256_" (.obj r.unsigned)

def validateTargetShape : Except GateError Unit :=
  match r.targetKind with
  | .memoryRun => do
    raiseIf (r.action.target ≠ .memoryRun) (invalid (lit "memory_run target requires a memory-run action"))
    raiseIf (r.usageDecisionId.any (Outbox.boundedText 128) = false)
      (invalid (lit "usage_decision_id must be a bounded identifier"))
    raiseIf (r.expectedMemoryRunStatus.any (fun s => decide (s ∈ memoryRunStatuses)) = false)
      (invalid (lit "memory_run target requires expected_memory_run_status"))
    raiseIf (r.expectedSessionVersion ≠ none)
      (invalid (lit "memory_run target cannot name expected_session_version"))
    if r.action = .recoverWithAttribution then
      raiseIf (r.memoryCausedFailure = none)
        (invalid (lit "recover_with_attribution requires memory_caused_failure"))
    else
      raiseIf (r.memoryCausedFailure ≠ none)
        (invalid (lit "memory_caused_failure is only permitted for recover_with_attribution"))
  | .gateSession => do
    raiseIf (r.action.target ≠ .gateSession) (invalid (lit "gate_session target requires a session action"))
    raiseIf (r.expectedSessionVersion.any (fun n => decide (1 ≤ n ∧ n ≤ auditMaxSequence)) = false)
      (invalid (lit "gate_session target requires expected_session_version"))
    raiseIf (r.expectedMemoryRunStatus ≠ none ∨ r.memoryCausedFailure ≠ none)
      (invalid (lit "gate_session target cannot contain memory-run fields"))

def checkErrorCode : Except GateError Unit :=
  match r.result with
  | .failed => raiseIf (r.errorCode.any (Outbox.boundedText 256) = false)
      (invalid (lit "error_code must be a bounded code"))
  | .succeeded => raiseIf (r.errorCode ≠ none) (invalid (lit "error_code is only permitted for failed recovery"))

def check (hash : TextHash) (codec : FloatCodec) : Except GateError Unit := do
  raiseIf (isRecoveryActionId r.recoveryActionId = false)
    (invalid (lit "recovery_action_id must be a canonical content identifier"))
  checkEach (fun f : Str × Str => auditIdentifier f.2 f.1)
    [(lit "session_id", r.sessionId), (lit "trace_id", r.traceId), (lit "run_id", r.runId),
      (lit "requested_by_principal_id", r.requestedByPrincipalId), (lit "executor_id", r.executorId)]
  r.usageDecisionId.elim (.ok ()) (fun v => auditIdentifier v (lit "usage_decision_id"))
  auditDigest r.requestSha256 (lit "request_sha256")
  r.checkErrorCode
  let started ← auditTimestamp r.startedAt (lit "started_at")
  let finished ← auditTimestamp r.finishedAt (lit "finished_at")
  raiseIf (finished < started) (invalid (lit "finished_at must not precede started_at"))
  r.validateTargetShape
  let expected ← r.derivedActionId hash codec
  raiseIf (r.recoveryActionId ≠ expected) (invalid (lit "recovery_action_id does not match canonical payload"))

end RecoveryAction

end Recoveries

section Constructed

variable (hash : TextHash) (codec : FloatCodec)

-- the records that their constructors accept
structure Event extends AuditEvent where
  checked : toAuditEvent.check hash codec = .ok ()
  deriving DecidableEq

structure Recovery extends RecoveryAction where
  checked : toRecoveryAction.check hash codec = .ok ()
  deriving DecidableEq

end Constructed

section Facts

variable {hash : TextHash} {codec : FloatCodec}

theorem instant_of_auditTimestamp {value name : Str} {t : Int} (h : auditTimestamp value name = .ok t) :
    instant? value = some t := by
  simp only [auditTimestamp, bind_eq_ok, demand_eq_ok, exists_unit, raiseIf_eq_ok, pure_eq_ok] at h
  obtain ⟨parsed, hparsed, _, -, -, rfl⟩ := h
  exact hparsed

namespace AuditEvent

variable {e : AuditEvent}

structure Sound (e : AuditEvent) : Prop where
  id : isEventId e.eventId = true
  bounded : 1 ≤ e.sequence ∧ e.sequence ≤ auditMaxSequence
  identified : ∀ v ∈ [e.streamId, e.tenantId, e.repositoryId, e.sessionId, e.traceId, e.runId],
    Outbox.boundedText 128 v = true
  first : e.sequence = 1 → e.previousEventId = none
  timed : ∃ t, instant? e.occurredAt = some t

theorem sound_of_check (h : e.check hash codec = .ok ()) : e.Sound := by
  simp only [check, bind_eq_ok, exists_unit, checkEach_eq_ok, raiseIf_eq_ok] at h
  obtain ⟨-, hid, hnames, hbounds, hfirst, -, -, -, t, htime, -⟩ := h
  constructor
  · simpa using hid
  · omega
  · intro v hv
    have hnamed : ∀ f ∈ [(lit "stream_id", e.streamId), (lit "tenant_id", e.tenantId),
        (lit "repository_id", e.repositoryId), (lit "session_id", e.sessionId), (lit "trace_id", e.traceId),
        (lit "run_id", e.runId), (lit "actor_id", e.actorId)], Outbox.boundedText 128 f.2 = true := by
      intro f hf
      have hok := hnames f hf
      simpa [auditIdentifier] using hok
    simp only [List.forall_mem_cons] at hnamed
    simp only [List.mem_cons, List.not_mem_nil, or_false] at hv
    obtain ⟨hstream, htenant, hrepository, hsession, htrace, hrun, -⟩ := hnamed
    rcases hv with rfl | rfl | rfl | rfl | rfl | rfl <;> assumption
  · intro hone
    rw [checkPrevious, if_pos hone] at hfirst
    simpa using hfirst
  · exact ⟨t, instant_of_auditTimestamp htime⟩

end AuditEvent

namespace Event

variable (e : Event hash codec)

theorem sound : e.toAuditEvent.Sound := AuditEvent.sound_of_check e.checked

theorem isSome_instant : (instant? e.occurredAt).isSome := by
  obtain ⟨t, ht⟩ := e.sound.timed
  rw [ht]
  rfl

def instant : Int := (instant? e.occurredAt).get e.isSome_instant

theorem parse_occurredAt : parseRfc3339 e.occurredAt = .ok e.instant := by
  rw [parseRfc3339, demand_eq_ok]
  exact (Option.some_get e.isSome_instant).symm

end Event

theorem verifyAuditEventParent_eq_ok {e p : Event hash codec} :
    verifyAuditEventParent e.toAuditEvent (some p.toAuditEvent) = .ok () ↔
      e.sequence ≠ 1 ∧ e.previousEventId = some p.eventId ∧ e.sequence = p.sequence + 1 ∧ e.streamId = p.streamId ∧
        e.tenantId = p.tenantId ∧ e.repositoryId = p.repositoryId ∧ e.sessionId = p.sessionId ∧
        e.traceId = p.traceId ∧ e.runId = p.runId ∧ p.instant ≤ e.instant := by
  by_cases hone : e.sequence = 1
  · simp [verifyAuditEventParent, hone]
  · rw [verifyAuditEventParent, if_neg hone, bind_eq_ok]
    simp only [demand_eq_ok, Option.some.injEq, exists_eq_left', bind_eq_ok, exists_unit, raiseIf_eq_ok,
      checkEach_eq_ok, e.parse_occurredAt, p.parse_occurredAt, Except.ok.injEq, List.forall_mem_cons]
    simp [hone, and_assoc]

end Facts

end Audit

end TraceBackedMemory
