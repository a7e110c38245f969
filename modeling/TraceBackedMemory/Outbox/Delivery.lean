import TraceBackedMemory.Gate.Session
import TraceBackedMemory.Ledger.Events

namespace TraceBackedMemory

open Text Raising

section CanonicalJson

mutual

def encodable : Json → Bool
  | .str s => (encodedBytes s).isSome
  | .arr items => encodableItems items
  | .obj fields => encodableFields fields
  | _ => true

def encodableItems : List Json → Bool
  | [] => true
  | v :: l => encodable v && encodableItems l

def encodableFields : List (Str × Json) → Bool
  | [] => true
  | (k, v) :: l => (encodedBytes k).isSome && encodable v && encodableFields l

end

def nonCanonicalJson : GateError :=
  ⟨.contract, lit "TBM_V3_NON_CANONICAL_JSON", lit "value cannot be encoded as finite canonical JSON"⟩

def canonicalHexdigest (sha : Sha256) (value : Json) : Except GateError Str := do
  raiseIf (encodable value = false) nonCanonicalJson
  return sha.hexdigest [] value

def canonicalRfc3339 (value : Str) : Except GateError Str := do
  let parsed ← GateSession.instant value
  demand (utcText? parsed) dateOutOfRange

def optionalCanonical (value : Option Str) : Except GateError (Option Str) :=
  match value with
  | none => .ok none
  | some text => do
    let canonical ← canonicalRfc3339 text
    return some canonical

end CanonicalJson

namespace Outbox

section Checks

def maxAttempts : Nat := 1000

def maxLeaseSeconds : Nat := 86400

def maxRetrySeconds : Nat := 604800

def invalid (message : Str) : GateError :=
  ⟨.contract, lit "TBM_COMPLETION_OUTBOX_INVALID", message⟩

def boundedText (limit : Nat) (value : Str) : Bool :=
  decide (value ≠ [] ∧ value.length ≤ limit ∧ strip value = value) &&
    value.all (fun c => decide (32 ≤ c.val ∧ c.val ≠ 127))

def identifier (value name : Str) : Except GateError Unit :=
  raiseIf (boundedText 128 value = false) (invalid (name ++ lit " must be a bounded identifier"))

def errorCode (value : Str) : Except GateError Unit :=
  raiseIf (boundedText 256 value = false) (invalid (lit "error_code must be a bounded identifier"))

def digest (value name : Str) : Except GateError Unit :=
  raiseIf (isDigest value = false) (invalid (name ++ lit " must be a canonical sha256 digest"))

def optionally (check : Str → Except GateError Unit) (value : Option Str) : Except GateError Unit :=
  value.elim (.ok ()) check

def timestamp (value name : Str) : Except GateError Int := do
  let parsed ← demand (instant? value)
    (invalid (name ++ lit " must be an RFC3339 timestamp: value must be a timezone-aware RFC 3339 date-time string"))
  let canonical ← demand (utcText? parsed) dateOutOfRange
  raiseIf (canonical ≠ value) (invalid (name ++ lit " must be canonical RFC3339"))
  return parsed

def optionalTimestamp (value : Option Str) (name : Str) : Except GateError (Option Int) :=
  match value with
  | none => .ok none
  | some text => do
    let parsed ← timestamp text name
    return some parsed

def timestampPlusSeconds (value : Int) (seconds : Int) (name : Str) : Except GateError Str :=
  demand (utcText? (value + seconds * 1000000))
    (invalid (name ++ lit " exceeds the supported timestamp range"))

def contentId (kind value : Str) : Bool :=
  decide (value.length = kind.length + 64) && kind.isPrefixOf value &&
    (value.drop kind.length).all isLowerHex

def eventKind : Str := lit "completion_outbox_event_sha256_"

def deliveryKind : Str := lit "completion_outbox_delivery_sha256_"

end Checks

section Deliveries

inductive DeliveryStatus where
  | pending
  | leased
  | retryWait
  | delivered
  | deadLetter
  deriving DecidableEq

namespace DeliveryStatus

def text : DeliveryStatus → Str
  | pending => lit "pending"
  | leased => lit "leased"
  | retryWait => lit "retry_wait"
  | delivered => lit "delivered"
  | deadLetter => lit "dead_letter"

def terminal : DeliveryStatus → Bool
  | delivered | deadLetter => true
  | pending | leased | retryWait => false

def allowed : DeliveryStatus → List DeliveryStatus
  | pending | retryWait => [leased]
  | leased => [leased, retryWait, delivered, deadLetter]
  | delivered | deadLetter => []

end DeliveryStatus

structure DeliveryRecord where
  eventId : Str
  version : Nat
  status : DeliveryStatus
  attemptCount : Nat
  updatedAt : Str
  availableAt : Option Str := none
  workerId : Option Str := none
  leaseExpiresAt : Option Str := none
  deliveredAt : Option Str := none
  lastErrorCode : Option Str := none
  responseSha256 : Option Str := none
  deriving DecidableEq

namespace DeliveryRecord

def toDict (r : DeliveryRecord) : Json :=
  .obj
    [(lit "contract_version", .str (lit "tbm.completion-outbox-delivery.v3")),
      (lit "event_id", .str r.eventId), (lit "version", jsonInt r.version),
      (lit "status", .str r.status.text), (lit "attempt_count", jsonInt r.attemptCount),
      (lit "updated_at", .str r.updatedAt), (lit "available_at", jsonOptional r.availableAt),
      (lit "worker_id", jsonOptional r.workerId),
      (lit "lease_expires_at", jsonOptional r.leaseExpiresAt),
      (lit "delivered_at", jsonOptional r.deliveredAt),
      (lit "last_error_code", jsonOptional r.lastErrorCode),
      (lit "response_sha256", jsonOptional r.responseSha256)]

def present (values : List (Option Str)) : Bool := values.any Option.isSome

def checkPending (r : DeliveryRecord) (available : Option Int) : Except GateError Unit := do
  raiseIf (r.version ≠ 1 ∨ r.attemptCount ≠ 0)
    (invalid (lit "pending is only valid for the initial revision"))
  raiseIf (available = none) (invalid (lit "pending delivery requires available_at"))
  raiseIf (present [r.workerId, r.leaseExpiresAt, r.deliveredAt, r.lastErrorCode, r.responseSha256] =
      true)
    (invalid (r.status.text ++ lit " state has invalid delivery fields"))

def checkLeased (r : DeliveryRecord) (updated : Int) (lease : Option Int) : Except GateError Unit := do
  raiseIf (r.attemptCount < 1) (invalid (lit "leased delivery requires an attempt"))
  raiseIf (r.workerId = none) (invalid (lit "leased delivery requires worker_id and lease"))
  let expires ← demand lease (invalid (lit "leased delivery requires worker_id and lease"))
  raiseIf (expires ≤ updated) (invalid (lit "lease_expires_at must follow updated_at"))
  raiseIf (present [r.availableAt, r.deliveredAt, r.lastErrorCode, r.responseSha256] = true)
    (invalid (lit "leased delivery has invalid terminal fields"))

def checkRetryWait (r : DeliveryRecord) (updated : Int) (available : Option Int) :
    Except GateError Unit := do
  raiseIf (r.attemptCount < 1) (invalid (lit "retry_wait delivery requires an attempt"))
  let ready ← demand available (invalid (lit "retry_wait requires future available_at"))
  raiseIf (ready ≤ updated) (invalid (lit "retry_wait requires future available_at"))
  raiseIf (r.lastErrorCode = none) (invalid (lit "retry_wait requires last_error_code"))
  raiseIf (present [r.workerId, r.leaseExpiresAt, r.deliveredAt, r.responseSha256] = true)
    (invalid (lit "retry_wait delivery has invalid lease fields"))

def checkDelivered (r : DeliveryRecord) (updated : Int) (delivered : Option Int) :
    Except GateError Unit := do
  raiseIf (r.attemptCount < 1 ∨ delivered = none)
    (invalid (lit "delivered state requires an attempt and timestamp"))
  raiseIf (delivered ≠ some updated) (invalid (lit "delivered_at must equal updated_at"))
  raiseIf (present [r.availableAt, r.workerId, r.leaseExpiresAt, r.lastErrorCode] = true)
    (invalid (lit "delivered state has invalid retry fields"))

def checkDeadLetter (r : DeliveryRecord) : Except GateError Unit := do
  raiseIf (r.attemptCount < 1 ∨ r.lastErrorCode = none)
    (invalid (lit "dead_letter requires an attempt and error code"))
  raiseIf (present [r.availableAt, r.workerId, r.leaseExpiresAt, r.deliveredAt, r.responseSha256] =
      true)
    (invalid (lit "dead_letter state has invalid delivery fields"))

def checkShape (r : DeliveryRecord) : Except GateError Unit := do
  raiseIf (contentId eventKind r.eventId = false)
    (invalid (lit "event_id must be a canonical content identifier"))
  raiseIf (r.version < 1) (invalid (lit "version must be a positive integer"))
  raiseIf (maxAttempts < r.attemptCount)
    (invalid (lit "attempt_count is outside the supported range"))
  let updated ← timestamp r.updatedAt (lit "updated_at")
  let available ← optionalTimestamp r.availableAt (lit "available_at")
  let lease ← optionalTimestamp r.leaseExpiresAt (lit "lease_expires_at")
  let delivered ← optionalTimestamp r.deliveredAt (lit "delivered_at")
  optionally (fun v => identifier v (lit "worker_id")) r.workerId
  optionally errorCode r.lastErrorCode
  optionally (fun v => digest v (lit "response_sha256")) r.responseSha256
  match r.status with
  | .pending => r.checkPending available
  | .leased => r.checkLeased updated lease
  | .retryWait => r.checkRetryWait updated available
  | .delivered => r.checkDelivered updated delivered
  | .deadLetter => r.checkDeadLetter

def deliveryId (sha : Sha256) (r : DeliveryRecord) : Except GateError Str := do
  let hex ← canonicalHexdigest sha r.toDict
  return deliveryKind ++ hex

def check (sha : Sha256) (r : DeliveryRecord) (revisionId : Str) : Except GateError Unit := do
  raiseIf (contentId deliveryKind revisionId = false)
    (invalid (lit "delivery_revision_id must be a canonical content identifier"))
  r.checkShape
  let expected ← r.deliveryId sha
  raiseIf (revisionId ≠ expected)
    (invalid (lit "delivery_revision_id does not match the canonical payload"))

end DeliveryRecord

structure CompletionOutboxDelivery (sha : Sha256) extends DeliveryRecord where
  deliveryRevisionId : Str
  valid : toDeliveryRecord.check sha deliveryRevisionId = .ok ()

variable {sha : Sha256}

def DeliveryRecord.construct (sha : Sha256) (r : DeliveryRecord) (revisionId : Str) :
    Except GateError (CompletionOutboxDelivery sha) :=
  match h : r.check sha revisionId with
  | .ok () => .ok ⟨r, revisionId, h⟩
  | .error e => .error e

def DeliveryRecord.canonical (r : DeliveryRecord) : Except GateError DeliveryRecord := do
  let updatedAt ← canonicalRfc3339 r.updatedAt
  let availableAt ← optionalCanonical r.availableAt
  let leaseExpiresAt ← optionalCanonical r.leaseExpiresAt
  let deliveredAt ← optionalCanonical r.deliveredAt
  return { r with
    updatedAt := updatedAt
    availableAt := availableAt
    leaseExpiresAt := leaseExpiresAt
    deliveredAt := deliveredAt }

def buildDelivery (sha : Sha256) (r : DeliveryRecord) :
    Except GateError (CompletionOutboxDelivery sha) := do
  let payload ← r.canonical
  let revisionId ← payload.deliveryId sha
  payload.construct sha revisionId

end Deliveries

section Operations

variable {sha : Sha256}

def buildInitial (sha : Sha256) (eventId occurredAt : Str) :
    Except GateError (CompletionOutboxDelivery sha) :=
  buildDelivery sha
    { eventId := eventId
      version := 1
      status := .pending
      attemptCount := 0
      updatedAt := occurredAt
      availableAt := some occurredAt }

def verifyTransition (previous current : CompletionOutboxDelivery sha) : Except GateError Unit := do
  raiseIf (previous.eventId ≠ current.eventId)
    (invalid (lit "delivery transition cannot change event_id"))
  raiseIf (current.version ≠ previous.version + 1)
    (invalid (lit "delivery transition must advance exactly one version"))
  let currentUpdated ← GateSession.instant current.updatedAt
  let previousUpdated ← GateSession.instant previous.updatedAt
  raiseIf (currentUpdated < previousUpdated)
    (invalid (lit "delivery transition timestamp moved backwards"))
  raiseIf (current.status ∉ previous.status.allowed)
    (invalid (lit "delivery transition is not allowed"))
  raiseIf (current.attemptCount ≠ previous.attemptCount + (if current.status = .leased then 1 else 0))
    (invalid (lit "delivery attempt_count does not match the transition"))

def validateClaim (workerId : Str) (leaseSeconds : Int) : Except GateError Unit := do
  identifier workerId (lit "worker_id")
  raiseIf (leaseSeconds < 1 ∨ (maxLeaseSeconds : Int) < leaseSeconds)
    (invalid (lit "lease_seconds is outside the supported range"))

def passed (deadline : Option Str) (now : Int) (message : Str) : Except GateError Unit :=
  match deadline with
  | none => .error (invalid message)
  | some text => do
    let ready ← GateSession.instant text
    raiseIf (now < ready) (invalid message)

def requireClaimable (current : CompletionOutboxDelivery sha) (claimed : Int) : Except GateError Unit :=
  match current.status with
  | .pending | .retryWait =>
    passed current.availableAt claimed (lit "delivery is not available for claim")
  | .leased => passed current.leaseExpiresAt claimed (lit "delivery lease has not expired")
  | .delivered | .deadLetter => .error (invalid (lit "terminal delivery cannot be claimed"))

def claim (current : CompletionOutboxDelivery sha) (workerId claimedAt : Str) (leaseSeconds : Int) :
    Except GateError (CompletionOutboxDelivery sha) := do
  validateClaim workerId leaseSeconds
  let claimed ← timestamp claimedAt (lit "claimed_at")
  requireClaimable current claimed
  let updated ← GateSession.instant current.updatedAt
  raiseIf (claimed < updated) (invalid (lit "claimed_at precedes current delivery state"))
  raiseIf (maxAttempts ≤ current.attemptCount)
    (invalid (lit "delivery attempt limit has been reached"))
  let leaseExpiresAt ← timestampPlusSeconds claimed leaseSeconds (lit "lease_expires_at")
  let updatedAt ← canonicalRfc3339 claimedAt
  let result ← buildDelivery sha
    { eventId := current.eventId
      version := current.version + 1
      status := .leased
      attemptCount := current.attemptCount + 1
      updatedAt := updatedAt
      workerId := some workerId
      leaseExpiresAt := some leaseExpiresAt }
  verifyTransition current result
  return result

def requireActiveLease (current : CompletionOutboxDelivery sha) (workerId occurredAt : Str) :
    Except GateError Int := do
  identifier workerId (lit "worker_id")
  let occurred ← timestamp occurredAt (lit "occurred_at")
  raiseIf (current.status ≠ .leased) (invalid (lit "delivery is not leased"))
  raiseIf (current.workerId ≠ some workerId)
    (invalid (lit "worker_id does not own the delivery lease"))
  let leaseText ← demand current.leaseExpiresAt (invalid (lit "delivery lease has expired"))
  let lease ← GateSession.instant leaseText
  raiseIf (lease < occurred) (invalid (lit "delivery lease has expired"))
  let updated ← GateSession.instant current.updatedAt
  raiseIf (occurred < updated) (invalid (lit "delivery timestamp moved backwards"))
  return occurred

def acknowledge (current : CompletionOutboxDelivery sha) (workerId acknowledgedAt : Str)
    (responseSha256 : Option Str) : Except GateError (CompletionOutboxDelivery sha) := do
  let _ ← requireActiveLease current workerId acknowledgedAt
  optionally (fun v => digest v (lit "response_sha256")) responseSha256
  let updatedAt ← canonicalRfc3339 acknowledgedAt
  let result ← buildDelivery sha
    { eventId := current.eventId
      version := current.version + 1
      status := .delivered
      attemptCount := current.attemptCount
      updatedAt := updatedAt
      deliveredAt := some updatedAt
      responseSha256 := responseSha256 }
  verifyTransition current result
  return result

def failedRecord (current : CompletionOutboxDelivery sha) (failed : Int) (updatedAt error : Str)
    (retryDelaySeconds attempts : Int) : Except GateError DeliveryRecord :=
  if attempts ≤ current.attemptCount then
    .ok
      { eventId := current.eventId
        version := current.version + 1
        status := .deadLetter
        attemptCount := current.attemptCount
        updatedAt := updatedAt
        lastErrorCode := some error }
  else do
    let availableAt ← timestampPlusSeconds failed retryDelaySeconds (lit "available_at")
    .ok
      { eventId := current.eventId
        version := current.version + 1
        status := .retryWait
        attemptCount := current.attemptCount
        updatedAt := updatedAt
        availableAt := some availableAt
        lastErrorCode := some error }

def fail (current : CompletionOutboxDelivery sha) (workerId failedAt error : Str)
    (retryDelaySeconds attempts : Int) : Except GateError (CompletionOutboxDelivery sha) := do
  let failed ← requireActiveLease current workerId failedAt
  errorCode error
  raiseIf (retryDelaySeconds < 1 ∨ (maxRetrySeconds : Int) < retryDelaySeconds)
    (invalid (lit "retry_delay_seconds is outside the supported range"))
  raiseIf (attempts < 1 ∨ (maxAttempts : Int) < attempts)
    (invalid (lit "max_attempts is outside the supported range"))
  let updatedAt ← canonicalRfc3339 failedAt
  let record ← failedRecord current failed updatedAt error retryDelaySeconds attempts
  let result ← buildDelivery sha record
  verifyTransition current result
  return result

end Operations

end Outbox

end TraceBackedMemory
