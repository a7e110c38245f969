import TraceBackedMemory.Gate.SessionEvents

namespace TraceBackedMemory

open Text Raising

open GateEvents (keysAre)

open Json (valueAt)

abbrev JsonFields := List (Str × Json)

namespace Outbox

variable {sha : Sha256}

section Events

structure OutboxEventRecord where
  tenantId : Str
  repositoryId : Str
  sessionId : Str
  traceId : Str
  runId : Str
  usageDecisionId : Str
  runOutcomeId : Str
  outcomeDescriptorSha256 : Str
  occurredAt : Str
  deriving DecidableEq

namespace OutboxEventRecord

def entries (r : OutboxEventRecord) : JsonFields :=
  [(lit "contract_version", .str (lit "tbm.completion-outbox-event.v3")),
    (lit "event_type", .str (lit "execution_completed")), (lit "tenant_id", .str r.tenantId),
    (lit "repository_id", .str r.repositoryId), (lit "session_id", .str r.sessionId),
    (lit "trace_id", .str r.traceId), (lit "run_id", .str r.runId),
    (lit "usage_decision_id", .str r.usageDecisionId),
    (lit "run_outcome_id", .str r.runOutcomeId),
    (lit "outcome_descriptor_sha256", .str r.outcomeDescriptorSha256),
    (lit "occurred_at", .str r.occurredAt)]

def outboxEventId (sha : Sha256) (r : OutboxEventRecord) : Except GateError Str := do
  let hex ← canonicalHexdigest sha (.obj r.entries)
  return eventKind ++ hex

def check (sha : Sha256) (r : OutboxEventRecord) (eventId : Str) : Except GateError Unit := do
  raiseIf (contentId eventKind eventId = false)
    (invalid (lit "event_id must be a canonical content identifier"))
  checkEach (fun f => identifier f.2 f.1)
    [(lit "tenant_id", r.tenantId), (lit "repository_id", r.repositoryId),
      (lit "session_id", r.sessionId), (lit "trace_id", r.traceId), (lit "run_id", r.runId),
      (lit "usage_decision_id", r.usageDecisionId)]
  raiseIf (contentId (lit "run_outcome_sha256_") r.runOutcomeId = false)
    (invalid (lit "run_outcome_id must be a canonical content identifier"))
  digest r.outcomeDescriptorSha256 (lit "outcome_descriptor_sha256")
  let _ ← timestamp r.occurredAt (lit "occurred_at")
  let expected ← r.outboxEventId sha
  raiseIf (eventId ≠ expected) (invalid (lit "event_id does not match the canonical payload"))

end OutboxEventRecord

structure CompletionOutboxEvent (sha : Sha256) extends OutboxEventRecord where
  eventId : Str
  valid : toOutboxEventRecord.check sha eventId = .ok ()
  deriving DecidableEq

def OutboxEventRecord.construct (sha : Sha256) (r : OutboxEventRecord) (eventId : Str) :
    Except GateError (CompletionOutboxEvent sha) :=
  match h : r.check sha eventId with
  | .ok () => .ok ⟨r, eventId, h⟩
  | .error e => .error e

def CompletionOutboxEvent.toDict (e : CompletionOutboxEvent sha) : Json :=
  .obj (e.entries ++ [(lit "event_id", .str e.eventId)])

def buildInitialDelivery (e : CompletionOutboxEvent sha) :
    Except GateError (CompletionOutboxDelivery sha) :=
  buildInitial sha e.eventId e.occurredAt

end Events

section Deliveries

def DeliveryRecord.entries (r : DeliveryRecord) : JsonFields :=
  [(lit "contract_version", .str (lit "tbm.completion-outbox-delivery.v3")),
    (lit "event_id", .str r.eventId), (lit "version", jsonInt r.version),
    (lit "status", .str r.status.text), (lit "attempt_count", jsonInt r.attemptCount),
    (lit "updated_at", .str r.updatedAt), (lit "available_at", jsonOptional r.availableAt),
    (lit "worker_id", jsonOptional r.workerId),
    (lit "lease_expires_at", jsonOptional r.leaseExpiresAt),
    (lit "delivered_at", jsonOptional r.deliveredAt),
    (lit "last_error_code", jsonOptional r.lastErrorCode),
    (lit "response_sha256", jsonOptional r.responseSha256)]

-- The dictionary of a delivery with its revision identifier; DeliveryRecord.toDict leaves it out.
def CompletionOutboxDelivery.revisionDict (d : CompletionOutboxDelivery sha) : Json :=
  .obj (d.entries ++ [(lit "delivery_revision_id", .str d.deliveryRevisionId)])

end Deliveries

section Parsing

def strictObject (value : Json) (fields : List Str) (label : String) : Except GateError JsonFields :=
  match value with
  | .obj entries => do
    raiseIf (keysAre entries fields = false)
      (invalid (lit label ++ lit " fields do not match the contract"))
    return entries
  | _ => .error (invalid (lit label ++ lit " must be an object"))

def asStr (fields : JsonFields) (name : String) : Except GateError Str :=
  match valueAt fields (lit name) with
  | .str s => .ok s
  | _ => .error (invalid (lit name ++ lit " must be a string"))

def asOptionalStr (fields : JsonFields) (name : String) : Except GateError (Option Str) :=
  match valueAt fields (lit name) with
  | .null => .ok none
  | .str s => .ok (some s)
  | _ => .error (invalid (lit name ++ lit " must be a string or null"))

def asInt (fields : JsonFields) (name : String) : Except GateError Int :=
  match valueAt fields (lit name) with
  | .num (.int n) => .ok n
  | _ => .error (invalid (lit name ++ lit " must be an integer"))

def eventFields : List Str :=
  [lit "contract_version", lit "event_id", lit "event_type", lit "tenant_id", lit "repository_id",
    lit "session_id", lit "trace_id", lit "run_id", lit "usage_decision_id", lit "run_outcome_id",
    lit "outcome_descriptor_sha256", lit "occurred_at"]

def parseCompletionOutboxEvent (sha : Sha256) (value : Json) :
    Except GateError (CompletionOutboxEvent sha) := do
  let fields ← strictObject value eventFields "CompletionOutboxEvent"
  let eventId ← asStr fields "event_id"
  let tenantId ← asStr fields "tenant_id"
  let repositoryId ← asStr fields "repository_id"
  let sessionId ← asStr fields "session_id"
  let traceId ← asStr fields "trace_id"
  let runId ← asStr fields "run_id"
  let usageDecisionId ← asStr fields "usage_decision_id"
  let runOutcomeId ← asStr fields "run_outcome_id"
  let outcomeDescriptorSha256 ← asStr fields "outcome_descriptor_sha256"
  let occurredAt ← asStr fields "occurred_at"
  let contractVersion ← asStr fields "contract_version"
  raiseIf (contractVersion ≠ lit "tbm.completion-outbox-event.v3")
    (invalid (lit "contract_version must be tbm.completion-outbox-event.v3"))
  raiseIf (valueAt fields (lit "event_type") ≠ .str (lit "execution_completed"))
    (invalid (lit "event_type is not supported"))
  OutboxEventRecord.construct sha
    { tenantId, repositoryId, sessionId, traceId, runId, usageDecisionId, runOutcomeId,
      outcomeDescriptorSha256, occurredAt } eventId

def deliveryFields : List Str :=
  [lit "contract_version", lit "delivery_revision_id", lit "event_id", lit "version", lit "status",
    lit "attempt_count", lit "updated_at", lit "available_at", lit "worker_id",
    lit "lease_expires_at", lit "delivered_at", lit "last_error_code", lit "response_sha256"]

def deliveryStatuses : List DeliveryStatus :=
  [.pending, .leased, .retryWait, .delivered, .deadLetter]

def deliveryStatusOf (value : Json) : Except GateError DeliveryStatus :=
  demand (deliveryStatuses.find? (fun status => decide (Json.str status.text = value)))
    (invalid (lit "status is not supported"))

def parseCompletionOutboxDelivery (sha : Sha256) (value : Json) :
    Except GateError (CompletionOutboxDelivery sha) := do
  let fields ← strictObject value deliveryFields "CompletionOutboxDelivery"
  let deliveryRevisionId ← asStr fields "delivery_revision_id"
  let eventId ← asStr fields "event_id"
  let version ← asInt fields "version"
  let attemptCount ← asInt fields "attempt_count"
  let updatedAt ← asStr fields "updated_at"
  let availableAt ← asOptionalStr fields "available_at"
  let workerId ← asOptionalStr fields "worker_id"
  let leaseExpiresAt ← asOptionalStr fields "lease_expires_at"
  let deliveredAt ← asOptionalStr fields "delivered_at"
  let lastErrorCode ← asOptionalStr fields "last_error_code"
  let responseSha256 ← asOptionalStr fields "response_sha256"
  let contractVersion ← asStr fields "contract_version"
  raiseIf (contractVersion ≠ lit "tbm.completion-outbox-delivery.v3")
    (invalid (lit "contract_version must be tbm.completion-outbox-delivery.v3"))
  raiseIf (version < 1) (invalid (lit "version must be a positive integer"))
  let status ← deliveryStatusOf (valueAt fields (lit "status"))
  raiseIf (attemptCount < 0) (invalid (lit "attempt_count is outside the supported range"))
  DeliveryRecord.construct sha
    { eventId, version := version.toNat, status, attemptCount := attemptCount.toNat, updatedAt,
      availableAt, workerId, leaseExpiresAt, deliveredAt, lastErrorCode, responseSha256 }
    deliveryRevisionId

end Parsing

end Outbox

end TraceBackedMemory
