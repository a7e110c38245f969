import TraceBackedMemory.Ledger.Events

namespace TraceBackedMemory

open Text Raising

variable {sha : Sha256}

section Errors

def invalidRequest (message : Str) : LedgerError :=
  ⟨.invalidRequest, lit "TBM_EVENT_LEDGER_REQUEST_INVALID", message⟩

def staleVersion : LedgerError :=
  ⟨.conflict, lit "TBM_EVENT_LEDGER_STALE_STREAM_VERSION", lit "expected stream version is stale"⟩

def classificationDenied (action : Str) : LedgerError :=
  ⟨.classificationDenied, lit "TBM_EVENT_LEDGER_CLASSIFICATION_DENIED",
    lit "event classification is not allowed for " ++ action⟩

def portFaults : List LedgerFault :=
  [.invalidRequest, .conflict, .idempotencyConflict, .scopeDenied, .classificationDenied, .integrity,
    .persistence]

def catching {α : Type} (faults : List LedgerFault) (replacement : LedgerError)
    (m : Except LedgerError α) : Except LedgerError α :=
  match m with
  | .ok a => .ok a
  | .error e => .error (if e.fault ∈ faults then replacement else e)

theorem catching_eq_ok {α : Type} {faults : List LedgerFault} {e : LedgerError}
    {m : Except LedgerError α} {a : α} : catching faults e m = .ok a ↔ m = .ok a := by
  cases m <;> simp [catching]

end Errors

section Identity

def identifierStart (c : CodePoint) : Bool :=
  decide ((48 ≤ c.val ∧ c.val ≤ 57) ∨ (65 ≤ c.val ∧ c.val ≤ 90) ∨ (97 ≤ c.val ∧ c.val ≤ 122))

def identifierRest (c : CodePoint) : Bool :=
  identifierStart c || decide (c = cp '.' ∨ c = cp '_' ∨ c = cp ':' ∨ c = cp '-')

def isBoundedIdentifier (s : Str) : Bool :=
  match s with
  | [] => false
  | c :: rest => identifierStart c && rest.all identifierRest && decide (rest.length ≤ 127)

def identifier (value name : Str) : Except LedgerError Unit :=
  raiseIf (isBoundedIdentifier value = false)
    (invalidRequest (name ++ lit " must be a bounded identifier"))

def digest (value name : Str) : Except LedgerError Unit :=
  raiseIf (validDigest value = false)
    (invalidRequest (name ++ lit " must be a canonical sha256 digest"))

def positiveCursor (value : Nat) (name : Str) (allowZero : Bool) : Except LedgerError Unit :=
  raiseIf (¬((if allowZero then 0 else 1) ≤ value ∧ value ≤ eventMaxVersion))
    (invalidRequest (name ++ lit " is out of bounds"))

structure LedgerTenantPartition where
  organizationId : Str
  tenantId : Str
  repositoryId : Str
  environmentId : Str
  deriving DecidableEq

def LedgerTenantPartition.toDict (p : LedgerTenantPartition) : Json :=
  .obj [(lit "organization_id", .str p.organizationId), (lit "tenant_id", .str p.tenantId),
    (lit "repository_id", .str p.repositoryId), (lit "environment_id", .str p.environmentId)]

def partitionDomain : Str := lit "tbm.event-ledger-partition.v1\x00"

def LedgerTenantPartition.sha256 (sha : Sha256) (p : LedgerTenantPartition) : Str :=
  sha.domain partitionDomain p.toDict

structure LedgerClassificationFilter where
  allowed : List EventClassification
  deriving DecidableEq

def LedgerClassificationFilter.toDict (f : LedgerClassificationFilter) : Json :=
  .obj [(lit "allowed", .arr (f.allowed.map (fun c => .str c.text)))]

def filterDomain : Str := lit "tbm.event-ledger-classification-filter.v1\x00"

def LedgerClassificationFilter.sha256 (sha : Sha256) (f : LedgerClassificationFilter) : Str :=
  sha.domain filterDomain f.toDict

def LedgerClassificationFilter.allows (f : LedgerClassificationFilter) (c : EventClassification) :
    Bool := decide (c ∈ f.allowed)

@[ext]
structure LedgerAccessContext where
  partition : LedgerTenantPartition
  principalId : Str
  agentClientId : Str
  actorType : EventActorType
  actorId : Str
  authorizationDecisionId : Str
  classificationFilter : LedgerClassificationFilter
  deriving DecidableEq

def LedgerAccessContext.eventTrustedContext (a : LedgerAccessContext) : EventTrustedContext where
  organizationId := a.partition.organizationId
  tenantId := a.partition.tenantId
  repositoryId := a.partition.repositoryId
  environmentId := a.partition.environmentId
  principalId := a.principalId
  agentClientId := a.agentClientId
  actorType := a.actorType
  actorId := a.actorId
  authorizationDecisionId := a.authorizationDecisionId

@[ext]
structure LedgerIdempotency where
  idempotencyKeySha256 : Str
  commandSha256 : Str
  deriving DecidableEq

def CanonicalEvent.partition (e : CanonicalEvent sha) : LedgerTenantPartition :=
  ⟨e.organizationId, e.tenantId, e.repositoryId, e.environmentId⟩

theorem LedgerTenantPartition.toDict_injective : Function.Injective LedgerTenantPartition.toDict := by
  rintro ⟨a₁, a₂, a₃, a₄⟩ ⟨b₁, b₂, b₃, b₄⟩ h
  simp only [toDict, Json.obj.injEq, List.cons.injEq, Prod.mk.injEq, true_and, and_true,
    Json.str.injEq] at h
  simp only [h]

theorem LedgerClassificationFilter.toDict_injective :
    Function.Injective LedgerClassificationFilter.toDict := by
  have hstr : Function.Injective (fun c : EventClassification => Json.str c.text) :=
    fun _ _ h => EventClassification.text_injective (Json.str.inj h)
  rintro ⟨a⟩ ⟨b⟩ h
  simp only [toDict, Json.obj.injEq, List.cons.injEq, Prod.mk.injEq, true_and, and_true,
    Json.arr.injEq, (List.map_injective_iff.mpr hstr).eq_iff] at h
  rw [h]

end Identity

section Requests

def eventLedgerMaxAppendBatch : Nat := 100

@[ext]
structure LedgerAppendRequest (sha : Sha256) where
  access : LedgerAccessContext
  streamId : Str
  expectedStreamVersion : Nat
  events : List (CanonicalEvent sha)
  idempotency : LedgerIdempotency
  deriving DecidableEq

def verifyEventParentOrInvalid (e : CanonicalEvent sha) (previous : Option (CanonicalEvent sha)) :
    Except LedgerError Unit :=
  match previous with
  | none => .ok ()
  | some p => catching [.eventContract] (invalidRequest (lit "event parent chain is invalid"))
      (verifyEventParent e (some p))

def LedgerAppendRequest.checkEvent (r : LedgerAppendRequest sha) (version : Nat)
    (previous : Option (CanonicalEvent sha)) (e : CanonicalEvent sha) : Except LedgerError Unit := do
  raiseIf (e.streamId ≠ r.streamId)
    (invalidRequest (lit "event stream_id does not match append request"))
  raiseIf (e.streamVersion ≠ version)
    (invalidRequest (lit "event stream_version does not follow expected head"))
  catching [.eventContract]
    (invalidRequest (lit "event trusted context does not match append access"))
    (verifyEventTrustedContext e r.access.eventTrustedContext)
  raiseIf (e.idempotencyKeySha256 ≠ r.idempotency.idempotencyKeySha256)
    (invalidRequest (lit "event idempotency key does not match append request"))
  raiseIf (e.requestSha256 ≠ r.idempotency.commandSha256)
    (invalidRequest (lit "event request digest does not match canonical command"))
  raiseIf (r.access.classificationFilter.allows e.classification = false)
    (classificationDenied (lit "append"))
  verifyEventParentOrInvalid e previous

def LedgerAppendRequest.checkEvents (r : LedgerAppendRequest sha) :
    Nat → Option (CanonicalEvent sha) → List (CanonicalEvent sha) → Except LedgerError Unit
  | _, _, [] => .ok ()
  | version, previous, e :: events => do
    r.checkEvent version previous e
    r.checkEvents (version + 1) (some e) events

def firstParent (events : List (CanonicalEvent sha)) : Option Str :=
  events.head?.bind (fun e => e.previousStreamEventSha256)

def LedgerAppendRequest.check (r : LedgerAppendRequest sha) : Except LedgerError Unit := do
  identifier r.streamId (lit "stream_id")
  raiseIf (eventMaxVersion < r.expectedStreamVersion)
    (invalidRequest (lit "expected_stream_version must be a bounded integer"))
  raiseIf (¬(1 ≤ r.events.length ∧ r.events.length ≤ eventLedgerMaxAppendBatch))
    (invalidRequest (lit "events must be a bounded non-empty tuple"))
  r.checkEvents (r.expectedStreamVersion + 1) none r.events
  if r.expectedStreamVersion = 0 then
    raiseIf ((firstParent r.events).isSome = true)
      (invalidRequest (lit "new stream append cannot name an existing parent"))
  else
    raiseIf (firstParent r.events = none)
      (invalidRequest (lit "existing stream append must name the expected parent hash"))

def eventLedgerPortVersion : Str := lit "tbm.event-ledger-port.v1"

def eventSha256s (events : List (CanonicalEvent sha)) : List Str := events.map (·.eventSha256)

def LedgerAppendRequest.toDict (r : LedgerAppendRequest sha) : Json :=
  .obj [(lit "contract_version", .str eventLedgerPortVersion),
    (lit "partition_sha256", .str (r.access.partition.sha256 sha)),
    (lit "classification_filter_sha256", .str (r.access.classificationFilter.sha256 sha)),
    (lit "principal_id", .str r.access.principalId),
    (lit "agent_client_id", .str r.access.agentClientId),
    (lit "actor_type", .str r.access.actorType.text), (lit "actor_id", .str r.access.actorId),
    (lit "authorization_decision_id", .str r.access.authorizationDecisionId),
    (lit "stream_id", .str r.streamId),
    (lit "expected_stream_version", jsonInt r.expectedStreamVersion),
    (lit "event_sha256s", .arr ((eventSha256s r.events).map .str)),
    (lit "idempotency_key_sha256", .str r.idempotency.idempotencyKeySha256),
    (lit "command_sha256", .str r.idempotency.commandSha256)]

def requestDomain : Str := lit "tbm.event-ledger-append-request.v1\x00"

def LedgerAppendRequest.requestSha256 (r : LedgerAppendRequest sha) : Str :=
  sha.domain requestDomain r.toDict

def LedgerAppendRequest.digested (r : LedgerAppendRequest sha) : List (Str × Json) :=
  (requestDomain, r.toDict) :: (partitionDomain, r.access.partition.toDict) ::
    (filterDomain, r.access.classificationFilter.toDict) ::
    r.events.map (fun e => (eventDomain, e.toDict))

end Requests

section Receipts

structure LedgerAppendReceipt (sha : Sha256) where
  requestSha256 : Str
  idempotencyKeySha256 : Str
  commandSha256 : Str
  streamId : Str
  previousStreamVersion : Nat
  currentStreamVersion : Nat
  firstGlobalPosition : Nat
  lastGlobalPosition : Nat
  events : List (CanonicalEvent sha)
  receiptSha256 : Str
  deriving DecidableEq

structure LedgerAppendCommit (sha : Sha256) where
  receipt : LedgerAppendReceipt sha
  inserted : Bool
  deriving DecidableEq

def receiptDomain : Str := lit "tbm.event-ledger-append-receipt.v1\x00"

def LedgerAppendReceipt.expectedSha256 (r : LedgerAppendReceipt sha) : Str :=
  sha.domain receiptDomain (.obj [(lit "request_sha256", .str r.requestSha256),
    (lit "idempotency_key_sha256", .str r.idempotencyKeySha256),
    (lit "command_sha256", .str r.commandSha256), (lit "stream_id", .str r.streamId),
    (lit "previous_stream_version", jsonInt r.previousStreamVersion),
    (lit "current_stream_version", jsonInt r.currentStreamVersion),
    (lit "first_global_position", jsonInt r.firstGlobalPosition),
    (lit "last_global_position", jsonInt r.lastGlobalPosition),
    (lit "event_sha256s", .arr ((eventSha256s r.events).map .str)),
    (lit "outcome", .str (lit "committed"))])

def LedgerAppendReceipt.checkEvents (r : LedgerAppendReceipt sha) :
    Nat → Option (CanonicalEvent sha) → List (CanonicalEvent sha) → Except LedgerError Unit
  | _, _, [] => .ok ()
  | version, previous, e :: events => do
    raiseIf (e.streamId ≠ r.streamId)
      (invalidRequest (lit "receipt event stream_id is inconsistent"))
    raiseIf (e.streamVersion ≠ version)
      (invalidRequest (lit "receipt event stream versions are not contiguous"))
    verifyEventParentOrInvalid e previous
    r.checkEvents (version + 1) (some e) events

def LedgerAppendReceipt.check (r : LedgerAppendReceipt sha) : Except LedgerError Unit := do
  digest r.requestSha256 (lit "request_sha256")
  digest r.idempotencyKeySha256 (lit "idempotency_key_sha256")
  digest r.commandSha256 (lit "command_sha256")
  digest r.receiptSha256 (lit "receipt_sha256")
  identifier r.streamId (lit "stream_id")
  raiseIf (r.currentStreamVersion < 1 ∨ r.currentStreamVersion < r.previousStreamVersion)
    (invalidRequest (lit "receipt stream versions are invalid"))
  raiseIf (r.firstGlobalPosition < 1 ∨ r.lastGlobalPosition < r.firstGlobalPosition)
    (invalidRequest (lit "receipt global positions are invalid"))
  raiseIf (¬(1 ≤ r.events.length ∧ r.events.length ≤ eventLedgerMaxAppendBatch))
    (invalidRequest (lit "receipt events must be a bounded non-empty tuple"))
  raiseIf (r.currentStreamVersion ≠ r.previousStreamVersion + r.events.length)
    (invalidRequest (lit "receipt stream versions do not match event count"))
  r.checkEvents (r.previousStreamVersion + 1) none r.events
  raiseIf (some r.firstGlobalPosition ≠ r.events.head?.map (·.globalPosition) ∨
      some r.lastGlobalPosition ≠ r.events.getLast?.map (·.globalPosition))
    (invalidRequest (lit "receipt global positions do not match events"))
  if r.previousStreamVersion = 0 then
    raiseIf ((firstParent r.events).isSome = true)
      (invalidRequest (lit "new stream receipt cannot name an existing parent"))
  else
    raiseIf (firstParent r.events = none)
      (invalidRequest (lit "existing stream receipt must name its prior head"))
  raiseIf (r.receiptSha256 ≠ r.expectedSha256)
    (invalidRequest (lit "receipt_sha256 does not match append receipt"))

def buildLedgerAppendReceipt (r : LedgerAppendRequest sha) :
    Except LedgerError (LedgerAppendReceipt sha) :=
  match r.events.head?, r.events.getLast? with
  | some first, some last => do
    let unsigned : LedgerAppendReceipt sha :=
      { requestSha256 := r.requestSha256
        idempotencyKeySha256 := r.idempotency.idempotencyKeySha256
        commandSha256 := r.idempotency.commandSha256
        streamId := r.streamId
        previousStreamVersion := r.expectedStreamVersion
        currentStreamVersion := last.streamVersion
        firstGlobalPosition := first.globalPosition
        lastGlobalPosition := last.globalPosition
        events := r.events
        receiptSha256 := [] }
    let receipt := { unsigned with receiptSha256 := unsigned.expectedSha256 }
    receipt.check
    return receipt
  | _, _ => .error (invalidRequest (lit "events must be a bounded non-empty tuple"))

def LedgerAppendReceipt.mismatch (receipt : LedgerAppendReceipt sha) (r : LedgerAppendRequest sha) :
    Prop :=
  receipt.requestSha256 ≠ r.requestSha256 ∨
    receipt.idempotencyKeySha256 ≠ r.idempotency.idempotencyKeySha256 ∨
    receipt.commandSha256 ≠ r.idempotency.commandSha256 ∨ receipt.streamId ≠ r.streamId ∨
    receipt.previousStreamVersion ≠ r.expectedStreamVersion ∨
    receipt.currentStreamVersion ≠ r.expectedStreamVersion + r.events.length ∨
    receipt.events ≠ r.events ∨
    some receipt.firstGlobalPosition ≠ r.events.head?.map (·.globalPosition) ∨
    some receipt.lastGlobalPosition ≠ r.events.getLast?.map (·.globalPosition)

instance (receipt : LedgerAppendReceipt sha) (r : LedgerAppendRequest sha) :
    Decidable (receipt.mismatch r) := inferInstanceAs (Decidable (_ ∨ _))

def verifyLedgerAppendReceipt (r : LedgerAppendRequest sha) (receipt : LedgerAppendReceipt sha) :
    Except LedgerError Unit :=
  raiseIf (receipt.mismatch r)
    ⟨.conflict, lit "TBM_EVENT_LEDGER_RECEIPT_MISMATCH",
      lit "ledger did not return the exact append result"⟩

end Receipts

section Precondition

def checkPositions : Nat → List (CanonicalEvent sha) → Except LedgerError Unit
  | _, [] => .ok ()
  | position, e :: events => do
    raiseIf (e.globalPosition ≠ position)
      ⟨.conflict, lit "TBM_EVENT_LEDGER_GLOBAL_POSITION_CONFLICT",
        lit "append event global positions are not currently available"⟩
    checkPositions (position + 1) events

def extendsHead (r : LedgerAppendRequest sha) (head : CanonicalEvent sha) : Except LedgerError Unit :=
  match r.events.head? with
  | none => .ok ()
  | some first => catching [.eventContract]
      ⟨.conflict, lit "TBM_EVENT_LEDGER_HEAD_MISMATCH",
        lit "append event does not extend the exact stream head"⟩
      (verifyEventParent first (some head))

def verifyLedgerAppendPrecondition (r : LedgerAppendRequest sha)
    (currentHead : Option (CanonicalEvent sha)) (nextGlobalPosition : Nat) :
    Except LedgerError Unit := do
  positiveCursor nextGlobalPosition (lit "next_global_position") false
  if r.expectedStreamVersion = 0 then raiseIf (currentHead.isSome = true) staleVersion
  else
    match currentHead with
    | none => .error staleVersion
    | some head => do
      raiseIf (head.streamId ≠ r.streamId ∨ head.streamVersion ≠ r.expectedStreamVersion) staleVersion
      extendsHead r head
  checkPositions nextGlobalPosition r.events

end Precondition

end TraceBackedMemory
