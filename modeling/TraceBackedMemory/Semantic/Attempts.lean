import TraceBackedMemory.Gate.SessionRevisions

namespace TraceBackedMemory

open Text Raising

-- A timestamp as the records keep it: the canonical UTC text of one instant.
structure CanonicalTime where
  text : Str
  canonical : CanonicalText text

namespace CanonicalTime

theorem eq_of_text {s t : CanonicalTime} (h : s.text = t.text) : s = t := by
  cases s
  cases t
  cases h
  rfl

instance decidableEq : DecidableEq CanonicalTime := fun s t =>
  decidable_of_iff (s.text = t.text) ⟨eq_of_text, congrArg text⟩

def instant (t : CanonicalTime) : Nat := micros t.text

def of (value : Str) : Except GateError CanonicalTime :=
  match h : canonicalRfc3339 value with
  | .ok canonical => .ok ⟨canonical, GateEvents.canonicalText_of_ok h⟩
  | .error e => .error e

end CanonicalTime

namespace SemanticGate

section Values

def invalidEvaluation (message : Str) : GateError :=
  ⟨.contract, lit "TBM_GATE_EVALUATION_INVALID", message⟩

def invalid (message : String) : GateError := invalidEvaluation (lit message)

def maxDecisions : Nat := 100

def maxInteger : Nat := 2147483647

def taggedHex (tag : String) (value : Str) : Bool :=
  decide (value.length = (lit tag).length + 64) && (lit tag).isPrefixOf value &&
    (value.drop (lit tag).length).all isLowerHex

def isRevisionId : Str → Bool := taggedHex "memory_revision_sha256_"

def isSnapshotId : Str → Bool := taggedHex "retrieval_snapshot_sha256_"

def isSystemGateId : Str → Bool := taggedHex "system_gate_sha256_"

def isAttemptId : Str → Bool := taggedHex "semantic_attempt_sha256_"

def isAuthorizationId : Str → Bool := taggedHex "authz_sha256_"

def boundedText (limit : Nat) (kind : String) (value label : Str) : Except GateError Unit := do
  raiseIf (isBlank value = true ∨ limit < value.length)
    (invalidEvaluation (label ++ lit (" must be " ++ kind)))
  raiseIf (encodedBytes value = none) (invalidEvaluation (label ++ lit " must be valid UTF-8"))

def gateIdentifier : Str → Str → Except GateError Unit :=
  boundedText 128 "a nonblank bounded identifier"

def gateText : Str → Str → Except GateError Unit := boundedText 4096 "nonblank bounded text"

def optionally (check : Str → Str → Except GateError Unit) (value : Option Str) (label : Str) :
    Except GateError Unit := value.elim (.ok ()) (fun v => check v label)

def gateDigest (value label : Str) : Except GateError Unit :=
  raiseIf (validDigest value = false)
    (invalidEvaluation (label ++ lit " must be sha256:<64 lowercase hex>"))

-- The gate contract allows no offset beyond fourteen hours.
def boundedOffset (value : Str) : Bool :=
  match value.drop (value.length - 6) with
  | [_, h₁, h₂, _, m₁, m₂] =>
    decide (value.getLast? = some (cp 'Z')) ||
      match asciiNumber? [h₁, h₂], asciiNumber? [m₁, m₂] with
      | some h, some m => decide (h ≤ 14 ∧ m ≤ 59)
      | _, _ => false
  | _ => false

def gateTimestamp (value label : Str) : Except GateError CanonicalTime := do
  raiseIf (isRfc3339 value = false ∨ boundedOffset value = false)
    (invalidEvaluation (label ++ lit " must be an RFC 3339 timestamp"))
  CanonicalTime.of value

def revisionIds (ids : List Str) (label : Str) : Except GateError Unit := do
  raiseIf (maxDecisions < ids.length) (invalidEvaluation (label ++ lit " must be a bounded tuple"))
  raiseIf (∃ id ∈ ids, isRevisionId id = false)
    (invalidEvaluation (label ++ lit " contains an invalid memory revision ID"))
  raiseIf (¬ids.Nodup) (invalidEvaluation (label ++ lit " must not contain duplicates"))
  raiseIf (sortedStrs ids ≠ ids) (invalidEvaluation (label ++ lit " must use canonical order"))

def boundedNonnegative (value : Nat) (label : Str) : Except GateError Unit :=
  raiseIf (maxInteger < value)
    (invalidEvaluation (label ++ lit " must be a bounded non-negative integer"))

end Values

section SystemGate

inductive GateOutcome where
  | allowed | blocked
  deriving DecidableEq

def GateOutcome.text : GateOutcome → Str
  | .allowed => lit "allowed"
  | .blocked => lit "blocked"

structure SystemGateDecision where
  memoryRevisionId : Str
  candidateSha256 : Str
  outcome : GateOutcome
  reasonCode : Str
  ruleId : Str
  deriving DecidableEq

def SystemGateDecision.check (d : SystemGateDecision) : Except GateError Unit := do
  raiseIf (isRevisionId d.memoryRevisionId = false)
    (invalid "memory_revision_id must reference a memory revision")
  gateDigest d.candidateSha256 (lit "candidate_sha256")
  gateIdentifier d.reasonCode (lit "reason_code")
  gateIdentifier d.ruleId (lit "rule_id")

def SystemGateDecision.toDict (d : SystemGateDecision) : Json :=
  .obj [(lit "memory_revision_id", .str d.memoryRevisionId),
    (lit "candidate_sha256", .str d.candidateSha256), (lit "outcome", .str d.outcome.text),
    (lit "reason_code", .str d.reasonCode), (lit "rule_id", .str d.ruleId)]

structure EvaluationContent where
  sessionId : Str
  retrievalSnapshotId : Str
  authorizationEventId : Str
  policyBundleSha256 : Str
  evaluatorId : Str
  evaluatorVersion : Str
  decisions : List SystemGateDecision
  evaluatedAt : CanonicalTime
  deriving DecidableEq

namespace EvaluationContent

def candidates (c : EvaluationContent) : List Str :=
  c.decisions.map SystemGateDecision.memoryRevisionId

def check (c : EvaluationContent) : Except GateError Unit := do
  gateIdentifier c.sessionId (lit "session_id")
  raiseIf (isSnapshotId c.retrievalSnapshotId = false)
    (invalid "retrieval_snapshot_id must reference a retrieval snapshot")
  raiseIf (isAuthorizationId c.authorizationEventId = false)
    (invalid "authorization_event_id must reference an authorization event")
  gateDigest c.policyBundleSha256 (lit "policy_bundle_sha256")
  gateIdentifier c.evaluatorId (lit "evaluator_id")
  gateIdentifier c.evaluatorVersion (lit "evaluator_version")
  checkEach SystemGateDecision.check c.decisions
  raiseIf (maxDecisions < c.decisions.length) (invalid "decisions must be a bounded tuple")
  raiseIf (¬c.candidates.Nodup) (invalid "decisions must not repeat a memory revision")

def unsignedFields (c : EvaluationContent) : List (Str × Json) :=
  [(lit "contract_version", .str (lit "tbm.system-gate-evaluation.v3")),
    (lit "session_id", .str c.sessionId), (lit "retrieval_snapshot_id", .str c.retrievalSnapshotId),
    (lit "authorization_event_id", .str c.authorizationEventId),
    (lit "policy_bundle_sha256", .str c.policyBundleSha256),
    (lit "evaluator_id", .str c.evaluatorId), (lit "evaluator_version", .str c.evaluatorVersion),
    (lit "decisions", .arr (c.decisions.map SystemGateDecision.toDict)),
    (lit "evaluated_at", .str c.evaluatedAt.text)]

end EvaluationContent

-- canonical_sha256 hashes the canonical JSON bytes with no domain tag.
def contentId (sha : Sha256) (tag : String) (fields : List (Str × Json)) : Str :=
  lit tag ++ sha.hexdigest [] (.obj fields)

def systemGateEvaluationId (sha : Sha256) (c : EvaluationContent) : Str :=
  contentId sha "system_gate_sha256_" c.unsignedFields

structure SystemGateEvaluation (sha : Sha256) extends EvaluationContent where
  evaluationId : Str
  checked : toEvaluationContent.check = .ok ()
  identified : evaluationId = systemGateEvaluationId sha toEvaluationContent
  deriving DecidableEq

def SystemGateEvaluation.toDict {sha : Sha256} (e : SystemGateEvaluation sha) : Json :=
  .obj ((lit "evaluation_id", .str e.evaluationId) :: e.unsignedFields)

-- The fields of a retrieval hit and of a snapshot that the gate reads.
structure RetrievalHit where
  memoryRevisionId : Str
  candidateSha256 : Str
  deriving DecidableEq

structure RetrievalSnapshot where
  snapshotId : Str
  sessionId : Str
  authorizationEventId : Str
  hits : List RetrievalHit
  createdAt : CanonicalTime
  deriving DecidableEq

end SystemGate

section Attempts

inductive AttemptStatus where
  | succeeded | failed
  deriving DecidableEq

def AttemptStatus.text : AttemptStatus → Str
  | .succeeded => lit "succeeded"
  | .failed => lit "failed"

inductive SemanticRisk where
  | low | medium | high | unknown
  deriving DecidableEq

def SemanticRisk.text : SemanticRisk → Str
  | .low => lit "low"
  | .medium => lit "medium"
  | .high => lit "high"
  | .unknown => lit "unknown"

inductive RecommendedInjection where
  | nothing | summary | full
  deriving DecidableEq

def RecommendedInjection.text : RecommendedInjection → Str
  | .nothing => lit "none"
  | .summary => lit "summary"
  | .full => lit "full"

structure AttemptContent where
  sessionId : Str
  retrievalSnapshotId : Str
  systemGateEvaluationId : Str
  sequence : Nat
  previousAttemptId : Option Str
  providerId : Str
  modelId : Str
  modelVersion : Str
  endpointId : Option Str
  promptTemplateId : Str
  promptTemplateVersion : Str
  promptArtifactSha256 : Str
  responseArtifactSha256 : Option Str
  generationConfigSha256 : Str
  providerRequestId : Option Str
  status : AttemptStatus
  decisionId : Option Str
  finalAllowedRevisionIds : List Str
  finalBlockedRevisionIds : List Str
  reason : Option Str
  risk : Option SemanticRisk
  recommendedInjection : Option RecommendedInjection
  errorCode : Option Str
  inputTokens : Option Nat
  outputTokens : Option Nat
  latencyMs : Nat
  startedAt : CanonicalTime
  finishedAt : CanonicalTime
  deriving DecidableEq

namespace AttemptContent

def checkPrevious (c : AttemptContent) : Except GateError Unit :=
  if c.sequence = 1 then
    raiseIf (c.previousAttemptId ≠ none) (invalid "first semantic attempt must not have a parent")
  else
    raiseIf (c.previousAttemptId.any isAttemptId = false)
      (invalid "later semantic attempt must reference its parent")

def checkParent (c : AttemptContent) (attemptId : Str) : Except GateError Unit := do
  raiseIf (c.sequence < 1 ∨ maxInteger < c.sequence)
    (invalid "sequence must be a bounded positive integer")
  c.checkPrevious
  raiseIf (c.previousAttemptId = some attemptId)
    (invalid "semantic attempt must not reference itself")

def checkSucceeded (c : AttemptContent) : Except GateError Unit := do
  checkEach (fun f : Bool × String => raiseIf (f.1 = false)
      (invalid ("succeeded semantic attempt requires " ++ f.2)))
    [(c.responseArtifactSha256.isSome, "response_artifact_sha256"),
      (c.decisionId.isSome, "decision_id"), (c.endpointId.isSome, "endpoint_id"),
      (c.providerRequestId.isSome, "provider_request_id"), (c.reason.isSome, "reason"),
      (c.risk.isSome, "risk"), (c.recommendedInjection.isSome, "recommended_injection")]
  optionally gateIdentifier c.decisionId (lit "decision_id")
  optionally gateText c.reason (lit "reason")
  raiseIf (c.errorCode ≠ none) (invalid "succeeded semantic attempt forbids error_code")

def checkFailed (c : AttemptContent) : Except GateError Unit := do
  raiseIf (c.responseArtifactSha256 ≠ none ∨ c.decisionId ≠ none ∨ c.reason ≠ none ∨
      c.risk ≠ none ∨ c.recommendedInjection ≠ none)
    (invalid "failed semantic attempt forbids decision output")
  raiseIf (c.finalAllowedRevisionIds ≠ [] ∨ c.finalBlockedRevisionIds ≠ [])
    (invalid "failed semantic attempt forbids final revision IDs")
  let errorCode ← demand c.errorCode (invalid "error_code must be a nonblank bounded identifier")
  gateIdentifier errorCode (lit "error_code")

def check (c : AttemptContent) (attemptId : Str) : Except GateError Unit := do
  gateIdentifier c.sessionId (lit "session_id")
  raiseIf (isSnapshotId c.retrievalSnapshotId = false)
    (invalid "retrieval_snapshot_id must reference a retrieval snapshot")
  raiseIf (isSystemGateId c.systemGateEvaluationId = false)
    (invalid "system_gate_evaluation_id must reference a System Gate record")
  c.checkParent attemptId
  checkEach (fun f : Str × String => gateIdentifier f.1 (lit f.2))
    [(c.providerId, "provider_id"), (c.modelId, "model_id"), (c.modelVersion, "model_version"),
      (c.promptTemplateId, "prompt_template_id"),
      (c.promptTemplateVersion, "prompt_template_version")]
  optionally gateIdentifier c.endpointId (lit "endpoint_id")
  gateDigest c.promptArtifactSha256 (lit "prompt_artifact_sha256")
  optionally gateDigest c.responseArtifactSha256 (lit "response_artifact_sha256")
  gateDigest c.generationConfigSha256 (lit "generation_config_sha256")
  optionally gateIdentifier c.providerRequestId (lit "provider_request_id")
  revisionIds c.finalAllowedRevisionIds (lit "final_allowed_revision_ids")
  revisionIds c.finalBlockedRevisionIds (lit "final_blocked_revision_ids")
  raiseIf (∃ id ∈ c.finalAllowedRevisionIds, id ∈ c.finalBlockedRevisionIds)
    (invalid "final allowed and blocked revision IDs must be disjoint")
  c.inputTokens.elim (.ok ()) (fun n => boundedNonnegative n (lit "input_tokens"))
  c.outputTokens.elim (.ok ()) (fun n => boundedNonnegative n (lit "output_tokens"))
  boundedNonnegative c.latencyMs (lit "latency_ms")
  raiseIf (c.finishedAt.instant < c.startedAt.instant)
    (invalid "finished_at must not precede started_at")
  match c.status with
  | .succeeded => c.checkSucceeded
  | .failed => c.checkFailed

def jsonTexts (ids : List Str) : Json := .arr (ids.map .str)

def jsonNumber (n : Option Nat) : Json := n.elim .null jsonInt

def unsignedFields (c : AttemptContent) : List (Str × Json) :=
  [(lit "contract_version", .str (lit "tbm.semantic-gate-attempt.v3")),
    (lit "session_id", .str c.sessionId), (lit "retrieval_snapshot_id", .str c.retrievalSnapshotId),
    (lit "system_gate_evaluation_id", .str c.systemGateEvaluationId),
    (lit "sequence", jsonInt c.sequence),
    (lit "previous_attempt_id", jsonOptional c.previousAttemptId),
    (lit "provider_id", .str c.providerId), (lit "model_id", .str c.modelId),
    (lit "model_version", .str c.modelVersion), (lit "endpoint_id", jsonOptional c.endpointId),
    (lit "prompt_template_id", .str c.promptTemplateId),
    (lit "prompt_template_version", .str c.promptTemplateVersion),
    (lit "prompt_artifact_sha256", .str c.promptArtifactSha256),
    (lit "response_artifact_sha256", jsonOptional c.responseArtifactSha256),
    (lit "generation_config_sha256", .str c.generationConfigSha256),
    (lit "provider_request_id", jsonOptional c.providerRequestId),
    (lit "status", .str c.status.text), (lit "decision_id", jsonOptional c.decisionId),
    (lit "final_allowed_revision_ids", jsonTexts c.finalAllowedRevisionIds),
    (lit "final_blocked_revision_ids", jsonTexts c.finalBlockedRevisionIds),
    (lit "reason", jsonOptional c.reason),
    (lit "risk", jsonOptional (c.risk.map SemanticRisk.text)),
    (lit "recommended_injection", jsonOptional (c.recommendedInjection.map RecommendedInjection.text)),
    (lit "error_code", jsonOptional c.errorCode), (lit "input_tokens", jsonNumber c.inputTokens),
    (lit "output_tokens", jsonNumber c.outputTokens), (lit "latency_ms", jsonInt c.latencyMs),
    (lit "started_at", .str c.startedAt.text), (lit "finished_at", .str c.finishedAt.text)]

end AttemptContent

def semanticGateAttemptId (sha : Sha256) (c : AttemptContent) : Str :=
  contentId sha "semantic_attempt_sha256_" c.unsignedFields

structure SemanticGateAttempt (sha : Sha256) extends AttemptContent where
  attemptId : Str
  checked : toAttemptContent.check attemptId = .ok ()
  identified : attemptId = semanticGateAttemptId sha toAttemptContent
  deriving DecidableEq

variable {sha : Sha256}

def SemanticGateAttempt.toDict (a : SemanticGateAttempt sha) : Json :=
  .obj ((lit "attempt_id", .str a.attemptId) :: a.unsignedFields)

def buildSemanticGateAttempt (sha : Sha256) (c : AttemptContent) :
    Except GateError (SemanticGateAttempt sha) :=
  match h : c.check (semanticGateAttemptId sha c) with
  | .ok _ => .ok ⟨c, semanticGateAttemptId sha c, h, rfl⟩
  | .error e => .error e

end Attempts

section Verification

variable {sha : Sha256}

def verifySystemGateEvaluation (e : SystemGateEvaluation sha) (snapshot : RetrievalSnapshot) :
    Except GateError Unit := do
  raiseIf (e.sessionId ≠ snapshot.sessionId)
    (invalid "System Gate session does not match retrieval snapshot")
  raiseIf (e.retrievalSnapshotId ≠ snapshot.snapshotId)
    (invalid "System Gate retrieval snapshot reference does not match")
  raiseIf (e.authorizationEventId ≠ snapshot.authorizationEventId)
    (invalid "System Gate authorization event does not match retrieval")
  raiseIf (e.decisions.map (fun d => RetrievalHit.mk d.memoryRevisionId d.candidateSha256) ≠ snapshot.hits)
    (invalid "System Gate decisions must exactly cover ordered retrieval hits")
  raiseIf (e.evaluatedAt.instant < snapshot.createdAt.instant)
    (invalid "System Gate evaluation must not precede retrieval")

def EvaluationContent.decidedAs (c : EvaluationContent) (outcome : GateOutcome) : List Str :=
  (c.decisions.filter (fun d => decide (d.outcome = outcome))).map SystemGateDecision.memoryRevisionId

def verifyFinalDecision (a : SemanticGateAttempt sha) (e : SystemGateEvaluation sha) :
    Except GateError Unit := do
  let systemAllowed := e.decidedAs .allowed
  let systemBlocked := e.decidedAs .blocked
  raiseIf (¬∀ id ∈ a.finalAllowedRevisionIds, id ∈ systemAllowed)
    (invalid "Semantic Gate cannot reopen a System Gate block")
  raiseIf (¬((∀ id ∈ a.finalAllowedRevisionIds ++ a.finalBlockedRevisionIds,
        id ∈ systemAllowed ++ systemBlocked) ∧
      ∀ id ∈ systemAllowed ++ systemBlocked,
        id ∈ a.finalAllowedRevisionIds ++ a.finalBlockedRevisionIds))
    (invalid "Semantic Gate final decision must cover every System Gate candidate")
  raiseIf (¬∀ id ∈ systemBlocked, id ∈ a.finalBlockedRevisionIds)
    (invalid "Semantic Gate final blocked set must preserve System Gate blocks")

def verifySemanticGateAttempt (a : SemanticGateAttempt sha) (e : SystemGateEvaluation sha)
    (snapshot : RetrievalSnapshot) : Except GateError Unit := do
  verifySystemGateEvaluation e snapshot
  raiseIf (a.sessionId ≠ e.sessionId) (invalid "Semantic Gate session does not match System Gate")
  raiseIf (a.retrievalSnapshotId ≠ e.retrievalSnapshotId)
    (invalid "Semantic Gate retrieval snapshot does not match System Gate")
  raiseIf (a.systemGateEvaluationId ≠ e.evaluationId)
    (invalid "Semantic Gate System Gate reference does not match")
  raiseIf (a.startedAt.instant < e.evaluatedAt.instant)
    (invalid "Semantic Gate attempt must not precede System Gate")
  match a.status with
  | .failed => .ok ()
  | .succeeded => verifyFinalDecision a e

def verifySemanticGateAttemptParent (a : SemanticGateAttempt sha) :
    Option (SemanticGateAttempt sha) → Except GateError Unit
  | none =>
    raiseIf (a.sequence ≠ 1) (invalid "later semantic attempt requires its exact parent record")
  | some parent =>
    if a.sequence = 1 then .error (invalid "first semantic attempt must not have a parent record")
    else do
      raiseIf (a.previousAttemptId ≠ some parent.attemptId)
        (invalid "semantic attempt parent identity does not match")
      raiseIf (a.sequence ≠ parent.sequence + 1)
        (invalid "semantic attempt sequence must follow its parent")
      raiseIf (a.sessionId ≠ parent.sessionId ∨ a.retrievalSnapshotId ≠ parent.retrievalSnapshotId ∨
          a.systemGateEvaluationId ≠ parent.systemGateEvaluationId)
        (invalid "semantic attempt parent belongs to a different gate chain")
      raiseIf (a.startedAt.instant < parent.finishedAt.instant)
        (invalid "semantic retry must not precede parent completion")

def verifyLinks (e : SystemGateEvaluation sha) (snapshot : RetrievalSnapshot) :
    Option (SemanticGateAttempt sha) → List (SemanticGateAttempt sha) → Except GateError Unit
  | _, [] => .ok ()
  | parent, a :: attempts => do
    verifySemanticGateAttempt a e snapshot
    verifySemanticGateAttemptParent a parent
    verifyLinks e snapshot (some a) attempts

def verifySemanticGateAttemptChain (attempts : List (SemanticGateAttempt sha))
    (e : SystemGateEvaluation sha) (snapshot : RetrievalSnapshot) : Except GateError Unit := do
  raiseIf (attempts = [] ∨ maxDecisions < attempts.length)
    (invalid "semantic attempt chain must be a non-empty bounded tuple")
  verifyLinks e snapshot none attempts

end Verification

end SemanticGate

end TraceBackedMemory
