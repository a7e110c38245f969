import TraceBackedMemory.Store.Checks
import TraceBackedMemory.Store.Instants
import TraceBackedMemory.Foundation.Decimal

namespace TraceBackedMemory

open Text Raising

section Statuses

inductive GateSessionStatus where
  | created
  | prepared
  | awaitingDecision
  | decided
  | finalized
  | executing
  | completed
  | canceled
  | expired
  | abandoned
  deriving DecidableEq

namespace GateSessionStatus

def text : GateSessionStatus → Str
  | created => lit "created"
  | prepared => lit "prepared"
  | awaitingDecision => lit "awaiting_decision"
  | decided => lit "decided"
  | finalized => lit "finalized"
  | executing => lit "executing"
  | completed => lit "completed"
  | canceled => lit "canceled"
  | expired => lit "expired"
  | abandoned => lit "abandoned"

def terminal : GateSessionStatus → Bool
  | completed | canceled | expired | abandoned => true
  | _ => false

def activeLease : GateSessionStatus → Bool
  | prepared | awaitingDecision | decided | finalized | executing => true
  | _ => false

def allowedTransitions : GateSessionStatus → List GateSessionStatus
  | created => [prepared, canceled]
  | prepared => [awaitingDecision, canceled, expired]
  | awaitingDecision => [decided, canceled, expired]
  | decided => [finalized]
  | finalized => [executing]
  | executing => [completed, abandoned]
  | completed | canceled | expired | abandoned => []

end GateSessionStatus

end Statuses

section Records

inductive GateFault where
  | contract
  | conflict
  | notFound
  | persistence
  | valueError
  | overflow
  deriving DecidableEq

structure GateError where
  fault : GateFault
  code : Str
  message : Str
  deriving DecidableEq

def invalidSession (message : Str) : GateError :=
  ⟨.contract, lit "TBM_GATE_SESSION_INVALID", message⟩

def dateOutOfRange : GateError := ⟨.overflow, [], lit "date value out of range"⟩

structure GateSessionRecord where
  sessionId : Str
  tenantId : Str
  repositoryId : Str
  principalId : Str
  agentClientId : Str
  traceId : Str
  runId : Str
  requestFingerprint : Str
  idempotencyKey : Str
  status : GateSessionStatus
  version : Nat
  createdAt : Str
  updatedAt : Str
  expiresAt : Str
  leaseExpiresAt : Option Str := none
  retrievalSnapshotId : Option Str := none
  systemGateEvaluationId : Option Str := none
  semanticGateAttemptIds : List Str := []
  decisionId : Option Str := none
  finalMemoryRevisionIds : List Str := []
  injectionArtifactId : Option Str := none
  usageDecisionId : Option Str := none
  runOutcomeId : Option Str := none
  terminalReason : Option Str := none
  deriving DecidableEq

def requiredText (limit : Nat) (value name : Str) : Except GateError Unit := do
  raiseIf (isBlank value = true ∨ limit < value.length)
    (invalidSession (name ++ lit " must be a nonblank string of at most " ++ decimal limit ++
      lit " characters"))
  raiseIf (encodedBytes value = none) (invalidSession (name ++ lit " must contain valid Unicode"))

def requiredIdentifier (value name : Str) : Except GateError Unit := requiredText 128 value name

def requiredMetadata (value name : Str) : Except GateError Unit := requiredText 512 value name

def requiredReason (value name : Str) : Except GateError Unit := requiredText 2000 value name

def optionalIdentifier (value : Option Str) (name : Str) : Except GateError Unit :=
  value.elim (.ok ()) (fun v => requiredIdentifier v name)

def identifierTuple (value : List Str) (name : Str) (maxItems : Nat) : Except GateError Unit := do
  raiseIf (maxItems < value.length)
    (invalidSession (name ++ lit " must be a tuple with at most " ++ decimal maxItems ++ lit " entries"))
  checkEach (fun item => requiredIdentifier item name) value
  raiseIf (¬value.Nodup) (invalidSession (name ++ lit " must not contain duplicates"))

def isDigest (value : Str) : Bool :=
  decide (value.length = 71) && (lit "sha256:").isPrefixOf value && (value.drop 7).all isLowerHex

def sessionTimestamp (value name : Str) : Except GateError Int :=
  demand (instant? value)
    (invalidSession (name ++ lit " must be a timezone-aware RFC 3339 date-time"))

namespace GateSessionRecord

def checkIdentity (r : GateSessionRecord) : Except GateError Unit := do
  checkEach (fun f : Str × Str => requiredIdentifier f.2 f.1)
    [(lit "session_id", r.sessionId), (lit "tenant_id", r.tenantId),
      (lit "repository_id", r.repositoryId), (lit "principal_id", r.principalId),
      (lit "agent_client_id", r.agentClientId), (lit "trace_id", r.traceId), (lit "run_id", r.runId)]
  raiseIf (isDigest r.requestFingerprint = false)
    (invalidSession (lit "request_fingerprint must be an algorithm-tagged SHA-256 digest"))
  requiredMetadata r.idempotencyKey (lit "idempotency_key")
  raiseIf (r.version < 1) (invalidSession (lit "version must be a positive integer"))

def checkLease (r : GateSessionRecord) (updated expires : Int) : Except GateError Unit :=
  match r.leaseExpiresAt with
  | none => .ok ()
  | some value => do
    let lease ← sessionTimestamp value (lit "lease_expires_at")
    raiseIf (lease ≤ updated ∨ expires < lease)
      (invalidSession (lit "lease_expires_at must be later than updated_at and not later than expires_at"))

def checkTimes (r : GateSessionRecord) : Except GateError Unit := do
  let created ← sessionTimestamp r.createdAt (lit "created_at")
  let updated ← sessionTimestamp r.updatedAt (lit "updated_at")
  let expires ← sessionTimestamp r.expiresAt (lit "expires_at")
  raiseIf (updated < created) (invalidSession (lit "updated_at must not precede created_at"))
  raiseIf (expires ≤ created) (invalidSession (lit "expires_at must be later than created_at"))
  raiseIf (expires < updated ∧ r.status.terminal = false)
    (invalidSession (lit "nonterminal updated_at must not be later than expires_at"))
  raiseIf (r.status = .expired ∧ updated < expires)
    (invalidSession (lit "expired session updated_at cannot precede expires_at"))
  r.checkLease updated expires

def checkEvidence (r : GateSessionRecord) : Except GateError Unit := do
  optionalIdentifier r.retrievalSnapshotId (lit "retrieval_snapshot_id")
  optionalIdentifier r.systemGateEvaluationId (lit "system_gate_evaluation_id")
  identifierTuple r.semanticGateAttemptIds (lit "semantic_gate_attempt_ids") 100
  optionalIdentifier r.decisionId (lit "decision_id")
  identifierTuple r.finalMemoryRevisionIds (lit "final_memory_revision_ids") 50
  optionalIdentifier r.injectionArtifactId (lit "injection_artifact_id")
  optionalIdentifier r.usageDecisionId (lit "usage_decision_id")
  optionalIdentifier r.runOutcomeId (lit "run_outcome_id")
  r.terminalReason.elim (.ok ()) (fun v => requiredReason v (lit "terminal_reason"))

def hasRetrieval (r : GateSessionRecord) : Bool := r.retrievalSnapshotId.isSome

def hasDecision (r : GateSessionRecord) : Bool := r.decisionId.isSome

def hasInjection (r : GateSessionRecord) : Bool := r.injectionArtifactId.isSome

def hasOutcome (r : GateSessionRecord) : Bool := r.runOutcomeId.isSome

def checkLinks (r : GateSessionRecord) : Except GateError Unit := do
  raiseIf (r.hasRetrieval ≠ r.systemGateEvaluationId.isSome)
    (invalidSession (lit "retrieval_snapshot_id and system_gate_evaluation_id must be recorded together"))
  raiseIf (r.semanticGateAttemptIds ≠ [] ∧ r.hasDecision = false)
    (invalidSession (lit "semantic Gate attempts require decision_id"))
  raiseIf (r.hasDecision = true ∧ r.hasRetrieval = false)
    (invalidSession (lit "decision_id requires prepared retrieval evidence"))
  raiseIf (r.hasInjection ≠ r.usageDecisionId.isSome)
    (invalidSession (lit "injection_artifact_id and usage_decision_id must be recorded together"))
  raiseIf (r.hasInjection = true ∧ r.hasDecision = false)
    (invalidSession (lit "finalized artifacts require decision_id"))
  raiseIf (r.finalMemoryRevisionIds ≠ [] ∧ r.hasInjection = false)
    (invalidSession (lit "final_memory_revision_ids require finalized artifacts"))
  raiseIf (r.hasOutcome = true ∧ r.hasInjection = false)
    (invalidSession (lit "run_outcome_id requires finalized artifacts"))

def checkStatus (r : GateSessionRecord) : Except GateError Unit :=
  match r.status with
  | .created =>
    raiseIf (r.leaseExpiresAt.isSome = true ∨ r.hasRetrieval = true ∨ r.hasDecision = true ∨
        r.hasInjection = true ∨ r.hasOutcome = true ∨ r.semanticGateAttemptIds ≠ [] ∨
        r.finalMemoryRevisionIds ≠ [])
      (invalidSession (lit "created session cannot contain lifecycle results"))
  | .prepared | .awaitingDecision =>
    raiseIf (r.hasRetrieval = false ∨ r.hasDecision = true ∨ r.hasInjection = true ∨
        r.hasOutcome = true)
      (invalidSession (r.status.text ++ lit " session must contain only prepared retrieval evidence"))
  | .decided =>
    raiseIf (r.hasRetrieval = false ∨ r.hasDecision = false ∨ r.hasInjection = true ∨
        r.hasOutcome = true)
      (invalidSession (lit "decided session requires a decision and forbids finalized artifacts"))
  | .finalized | .executing =>
    raiseIf (r.hasInjection = false ∨ r.hasOutcome = true)
      (invalidSession (r.status.text ++
        lit " session requires finalized artifacts and forbids run outcome"))
  | .completed =>
    raiseIf (r.hasOutcome = false) (invalidSession (lit "completed session requires run_outcome_id"))
  | .abandoned =>
    raiseIf (r.hasInjection = false ∨ r.hasOutcome = true)
      (invalidSession (lit "abandoned session requires finalized artifacts and forbids run outcome"))
  | .canceled =>
    raiseIf (r.hasDecision = true ∨ r.hasInjection = true ∨ r.hasOutcome = true)
      (invalidSession (lit "canceled session cannot contain decided or finalized lifecycle results"))
  | .expired =>
    raiseIf (r.hasRetrieval = false ∨ r.hasDecision = true ∨ r.hasInjection = true ∨
        r.hasOutcome = true)
      (invalidSession (lit "expired session requires prepared retrieval evidence and forbids decided or finalized lifecycle results"))

def checkLeasePresence (r : GateSessionRecord) : Except GateError Unit :=
  if r.status.activeLease then
    raiseIf (r.leaseExpiresAt = none)
      (invalidSession (r.status.text ++ lit " session requires an active lease"))
  else
    raiseIf (r.leaseExpiresAt.isSome = true)
      (invalidSession (r.status.text ++ lit " session cannot retain an active lease"))

def checkReason (r : GateSessionRecord) : Except GateError Unit :=
  if r.status = .canceled ∨ r.status = .expired ∨ r.status = .abandoned then
    raiseIf (r.terminalReason = none)
      (invalidSession (r.status.text ++ lit " session requires terminal_reason"))
  else
    raiseIf (r.terminalReason.isSome = true)
      (invalidSession (r.status.text ++ lit " session cannot contain terminal_reason"))

def validateRecordShape (r : GateSessionRecord) : Except GateError Unit := do
  r.checkLinks
  r.checkStatus
  r.checkLeasePresence
  r.checkReason

def check (r : GateSessionRecord) : Except GateError Unit := do
  r.checkIdentity
  r.checkTimes
  r.checkEvidence
  r.validateRecordShape

end GateSessionRecord

structure GateSession extends GateSessionRecord where
  valid : toGateSessionRecord.check = .ok ()
  deriving DecidableEq

def GateSessionRecord.build (r : GateSessionRecord) : Except GateError GateSession :=
  match h : r.check with
  | .ok () => .ok ⟨r, h⟩
  | .error e => .error e

def GateSession.terminal (s : GateSession) : Bool := s.status.terminal

end Records

section Operations

structure SessionIdentity where
  sessionId : Str
  tenantId : Str
  repositoryId : Str
  principalId : Str
  agentClientId : Str
  traceId : Str
  runId : Str
  requestFingerprint : Str
  idempotencyKey : Str
  deriving DecidableEq

def createGateSession (i : SessionIdentity) (createdAt expiresAt : Str) :
    Except GateError GateSession :=
  GateSessionRecord.build
    { sessionId := i.sessionId
      tenantId := i.tenantId
      repositoryId := i.repositoryId
      principalId := i.principalId
      agentClientId := i.agentClientId
      traceId := i.traceId
      runId := i.runId
      requestFingerprint := i.requestFingerprint
      idempotencyKey := i.idempotencyKey
      status := .created
      version := 1
      createdAt := createdAt
      updatedAt := createdAt
      expiresAt := expiresAt }

structure TransitionFields where
  leaseExpiresAt : Option Str := none
  retrievalSnapshotId : Option Str := none
  systemGateEvaluationId : Option Str := none
  semanticGateAttemptIds : Option (List Str) := none
  decisionId : Option Str := none
  finalMemoryRevisionIds : Option (List Str) := none
  injectionArtifactId : Option Str := none
  usageDecisionId : Option Str := none
  runOutcomeId : Option Str := none
  terminalReason : Option Str := none
  deriving DecidableEq

inductive SessionField where
  | leaseExpiresAt
  | retrievalSnapshotId
  | systemGateEvaluationId
  | semanticGateAttemptIds
  | decisionId
  | finalMemoryRevisionIds
  | injectionArtifactId
  | usageDecisionId
  | runOutcomeId
  | terminalReason
  deriving DecidableEq

namespace SessionField

def text : SessionField → Str
  | leaseExpiresAt => lit "lease_expires_at"
  | retrievalSnapshotId => lit "retrieval_snapshot_id"
  | systemGateEvaluationId => lit "system_gate_evaluation_id"
  | semanticGateAttemptIds => lit "semantic_gate_attempt_ids"
  | decisionId => lit "decision_id"
  | finalMemoryRevisionIds => lit "final_memory_revision_ids"
  | injectionArtifactId => lit "injection_artifact_id"
  | usageDecisionId => lit "usage_decision_id"
  | runOutcomeId => lit "run_outcome_id"
  | terminalReason => lit "terminal_reason"

def all : List SessionField :=
  [leaseExpiresAt, retrievalSnapshotId, systemGateEvaluationId, semanticGateAttemptIds, decisionId,
    finalMemoryRevisionIds, injectionArtifactId, usageDecisionId, runOutcomeId, terminalReason]

theorem mem_all (n : SessionField) : n ∈ all := by
  cases n <;> decide

end SessionField

namespace TransitionFields

def has (f : TransitionFields) : SessionField → Bool
  | .leaseExpiresAt => f.leaseExpiresAt.isSome
  | .retrievalSnapshotId => f.retrievalSnapshotId.isSome
  | .systemGateEvaluationId => f.systemGateEvaluationId.isSome
  | .semanticGateAttemptIds => f.semanticGateAttemptIds.isSome
  | .decisionId => f.decisionId.isSome
  | .finalMemoryRevisionIds => f.finalMemoryRevisionIds.isSome
  | .injectionArtifactId => f.injectionArtifactId.isSome
  | .usageDecisionId => f.usageDecisionId.isSome
  | .runOutcomeId => f.runOutcomeId.isSome
  | .terminalReason => f.terminalReason.isSome

def supplied (f : TransitionFields) : List SessionField := SessionField.all.filter f.has

theorem mem_supplied {f : TransitionFields} {n : SessionField} : n ∈ f.supplied ↔ f.has n = true := by
  simp [supplied, n.mem_all]

end TransitionFields

def allowedFields : GateSessionStatus → List SessionField
  | .created | .awaitingDecision | .executing => []
  | .prepared => [.leaseExpiresAt, .retrievalSnapshotId, .systemGateEvaluationId]
  | .decided => [.semanticGateAttemptIds, .decisionId]
  | .finalized => [.finalMemoryRevisionIds, .injectionArtifactId, .usageDecisionId]
  | .completed => [.runOutcomeId]
  | .canceled | .expired | .abandoned => [.terminalReason]

def requiredFields : GateSessionStatus → List SessionField := allowedFields

def staleSession : GateError :=
  ⟨.contract, lit "TBM_GATE_SESSION_STALE_VERSION",
    lit "expected_version does not match the current session revision"⟩

def invalidTransition (message : Str) : GateError :=
  ⟨.contract, lit "TBM_GATE_SESSION_INVALID_TRANSITION", message⟩

def refuseFirst (prefixText : Str) (fields : List SessionField) : Except GateError Unit :=
  match sortedStrs (fields.map SessionField.text) with
  | [] => .ok ()
  | name :: _ => .error (invalidSession (prefixText ++ name))

def GateSession.instant (text : Str) : Except GateError Int :=
  demand (instant? text)
    ⟨.valueError, [], lit "value must be a timezone-aware RFC 3339 date-time string"⟩

namespace GateSession

def checkTransitionTimes (s : GateSession) (target : GateSessionStatus) (updatedAt : Str) :
    Except GateError Unit := do
  let previousUpdated ← instant s.updatedAt
  let nextUpdated ← demand (instant? updatedAt)
    (invalidSession (lit "updated_at must be a timezone-aware RFC 3339 date-time"))
  raiseIf (nextUpdated ≤ previousUpdated)
    (invalidSession (lit "transition updated_at must be later than current updated_at"))
  let expires ← instant s.expiresAt
  raiseIf (target.terminal = false ∧ expires < nextUpdated)
    (invalidSession (lit "transition updated_at must not be later than expires_at"))
  raiseIf (target = .expired ∧ nextUpdated < expires)
    (invalidSession (lit "expired transition cannot precede expires_at"))

def advanced (s : GateSession) (target : GateSessionStatus) (updatedAt : Str) (f : TransitionFields) :
    GateSessionRecord :=
  { s.toGateSessionRecord with
    status := target
    version := s.version + 1
    updatedAt := updatedAt
    leaseExpiresAt := if target.terminal then none else f.leaseExpiresAt.or s.leaseExpiresAt
    retrievalSnapshotId := f.retrievalSnapshotId.or s.retrievalSnapshotId
    systemGateEvaluationId := f.systemGateEvaluationId.or s.systemGateEvaluationId
    semanticGateAttemptIds := f.semanticGateAttemptIds.getD s.semanticGateAttemptIds
    decisionId := f.decisionId.or s.decisionId
    finalMemoryRevisionIds := f.finalMemoryRevisionIds.getD s.finalMemoryRevisionIds
    injectionArtifactId := f.injectionArtifactId.or s.injectionArtifactId
    usageDecisionId := f.usageDecisionId.or s.usageDecisionId
    runOutcomeId := f.runOutcomeId.or s.runOutcomeId
    terminalReason := f.terminalReason }

def transition (s : GateSession) (target : GateSessionStatus) (expectedVersion : Nat)
    (updatedAt : Str) (f : TransitionFields) : Except GateError GateSession := do
  raiseIf (expectedVersion ≠ s.version) staleSession
  raiseIf (target ∉ s.status.allowedTransitions)
    (invalidTransition (lit "cannot transition GateSession from " ++ s.status.text ++ lit " to " ++
      target.text))
  refuseFirst (target.text ++ lit " transition cannot set ")
    (f.supplied.filter (fun name => decide (name ∉ allowedFields target)))
  refuseFirst (target.text ++ lit " transition requires ")
    ((requiredFields target).filter (fun name => decide (name ∉ f.supplied)))
  s.checkTransitionTimes target updatedAt
  (s.advanced target updatedAt f).build

def renewed (s : GateSession) (updatedAt leaseExpiresAt : Str) : GateSessionRecord :=
  { s.toGateSessionRecord with
    version := s.version + 1
    updatedAt := updatedAt
    leaseExpiresAt := some leaseExpiresAt }

def renewalTimestamps : GateError :=
  invalidSession (lit "lease renewal timestamps must be timezone-aware RFC 3339")

def renewLease (s : GateSession) (expectedVersion : Nat) (updatedAt leaseExpiresAt : Str) :
    Except GateError GateSession := do
  raiseIf (expectedVersion ≠ s.version) staleSession
  raiseIf (s.status.activeLease = false)
    (invalidTransition (lit "cannot renew lease for " ++ s.status.text ++ lit " GateSession"))
  let currentLease ← demand (s.leaseExpiresAt.bind instant?) renewalTimestamps
  let nextLease ← demand (instant? leaseExpiresAt) renewalTimestamps
  let nextUpdated ← demand (instant? updatedAt) renewalTimestamps
  let previousUpdated ← instant s.updatedAt
  raiseIf (nextUpdated ≤ previousUpdated) (invalidSession (lit "lease renewal updated_at must advance"))
  raiseIf (currentLease ≤ nextUpdated)
    (invalidSession (lit "lease must be renewed before the current lease expires"))
  raiseIf (nextLease ≤ currentLease)
    (invalidSession (lit "renewed lease_expires_at must extend the current lease"))
  (s.renewed updatedAt leaseExpiresAt).build

end GateSession

end Operations

end TraceBackedMemory
