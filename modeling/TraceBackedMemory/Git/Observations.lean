import TraceBackedMemory.Ledger.Port
import TraceBackedMemory.Gate.SessionEvents

namespace TraceBackedMemory

open Text Raising

open GateEvents (keysAre)

open Json (valueAt Fields)

namespace GitGraph

section Vocabulary

inductive ObservationKind where
  | checkout | commit | ref | worktreeStatus | diff | ancestry | objectAvailability | shallowState
  deriving DecidableEq

def ObservationKind.text : ObservationKind → Str
  | .checkout => lit "checkout"
  | .commit => lit "commit"
  | .ref => lit "ref"
  | .worktreeStatus => lit "worktree_status"
  | .diff => lit "diff"
  | .ancestry => lit "ancestry"
  | .objectAvailability => lit "object_availability"
  | .shallowState => lit "shallow_state"

def ObservationKind.eventType : ObservationKind → Str
  | .checkout => lit "tbm.git.checkout_observed"
  | .commit => lit "tbm.git.commit_observed"
  | .ref => lit "tbm.git.ref_observed"
  | .worktreeStatus => lit "tbm.git.worktree_status_observed"
  | .diff => lit "tbm.git.diff_captured"
  | .ancestry => lit "tbm.git.commit_relation_observed"
  | .objectAvailability => lit "tbm.git.object_availability_observed"
  | .shallowState => lit "tbm.git.shallow_state_observed"

def observationKinds : List ObservationKind :=
  [.checkout, .commit, .ref, .worktreeStatus, .diff, .ancestry, .objectAvailability, .shallowState]

def gitObservationTypes : List Str := observationKinds.map ObservationKind.eventType

def kindByEventType (eventType : Str) : Option ObservationKind :=
  observationKinds.find? (fun kind => decide (kind.eventType = eventType))

inductive AncestryRelation where
  | ancestor | notAncestor | unknown
  deriving DecidableEq

def AncestryRelation.text : AncestryRelation → Str
  | .ancestor => lit "ancestor"
  | .notAncestor => lit "not_ancestor"
  | .unknown => lit "unknown"

def relationValues : List AncestryRelation := [.ancestor, .notAncestor, .unknown]

inductive ObjectType where
  | commit | tree | blob | tag | unknown
  deriving DecidableEq

def ObjectType.text : ObjectType → Str
  | .commit => lit "commit"
  | .tree => lit "tree"
  | .blob => lit "blob"
  | .tag => lit "tag"
  | .unknown => lit "unknown"

def objectTypes : List ObjectType := [.commit, .tree, .blob, .tag, .unknown]

inductive ObjectAvailability where
  | available | unavailable | unknown
  deriving DecidableEq

def ObjectAvailability.text : ObjectAvailability → Str
  | .available => lit "available"
  | .unavailable => lit "unavailable"
  | .unknown => lit "unknown"

def availabilityValues : List ObjectAvailability := [.available, .unavailable, .unknown]

inductive UnavailableReason where
  | missing | shallowBoundary | notFetched | captureFailed | unknown
  deriving DecidableEq

def UnavailableReason.text : UnavailableReason → Str
  | .missing => lit "missing"
  | .shallowBoundary => lit "shallow_boundary"
  | .notFetched => lit "not_fetched"
  | .captureFailed => lit "capture_failed"
  | .unknown => lit "unknown"

def unavailableReasons : List UnavailableReason :=
  [.missing, .shallowBoundary, .notFetched, .captureFailed, .unknown]

end Vocabulary

section Patterns

def maxSequence : Nat := 1000000000

def maxBoundaryCommits : Nat := 100

def maxAppendBatch : Nat := 100

def isCommitSha (s : Str) : Bool := decide (s.length = 40 ∨ s.length = 64) && s.all isLowerHex

def isArtifactId (s : Str) : Bool :=
  decide (s.length = 80) && (lit "artifact_sha256_").isPrefixOf s && (s.drop 16).all isLowerHex

def isEventId (s : Str) : Bool :=
  (lit "evt_").isPrefixOf s && isBoundedIdentifier (s.drop 4) && decide (s.length ≤ 128)

def refCharacter (c : CodePoint) : Bool := identifierStart c || (lit "_@+./-").contains c

-- A part of a ref name between slashes: not empty, no leading dot, no ".lock" ending.
def refComponent (s : Str) : Bool :=
  decide (s ≠ [] ∧ s.head? ≠ some (cp '.')) && !(lit ".lock").isSuffixOf s

def isGitRefName (s : Str) : Bool :=
  decide (1 ≤ s.length ∧ s.length ≤ 512) && s.all refCharacter &&
    decide (s.head? ≠ some (cp '-') ∧ s ≠ lit "@" ∧ s.getLast? ≠ some (cp '.')) &&
    decide (¬lit ".." <:+: s) && (s.splitOn (cp '/')).all refComponent

def isEvidenceVersion : Str → Bool
  | [] => false
  | c :: rest =>
    identifierStart c && decide (rest.length ≤ 255) &&
      rest.all (fun d => identifierStart d || (lit "._+-").contains d)

end Patterns

section Details

def invalidGit (message : Str) : GateError :=
  ⟨.contract, lit "TBM_GIT_OBSERVATION_INVALID", message⟩

def invalidGitField (name : Str) : GateError := invalidGit (name ++ lit " is invalid")

structure GitObservationDetails where
  observationKind : ObservationKind
  commitSha : Option Str := none
  baseCommitSha : Option Str := none
  refName : Option Str := none
  detached : Option Bool := none
  dirty : Option Bool := none
  remoteSha256 : Option Str := none
  diffArtifactId : Option Str := none
  ancestorSha : Option Str := none
  descendantSha : Option Str := none
  relation : Option AncestryRelation := none
  objectSha : Option Str := none
  objectType : Option ObjectType := none
  availability : Option ObjectAvailability := none
  unavailableReason : Option UnavailableReason := none
  shallow : Option Bool := none
  boundaryCommitShas : List Str := []
  deriving DecidableEq

def optionalText (accepts : Str → Bool) (fields : Fields) (name : String) :
    Except GateError (Option Str) :=
  match valueAt fields (lit name) with
  | .null => .ok none
  | .str value => do
    raiseIf (accepts value = false) (invalidGitField (lit name))
    return some value
  | _ => .error (invalidGitField (lit name))

def optionalBool (fields : Fields) (name : String) : Except GateError (Option Bool) :=
  match valueAt fields (lit name) with
  | .null => .ok none
  | .bool value => .ok (some value)
  | _ => .error (invalidGit (lit name ++ lit " must be a boolean or null"))

def optionalMember {α : Type} (values : List α) (text : α → Str) (fields : Fields) (name : String) :
    Except GateError (Option α) :=
  match valueAt fields (lit name) with
  | .null => .ok none
  | .str value => do
    let member ← demand (values.find? (fun a => decide (text a = value))) (invalidGitField (lit name))
    return some member
  | _ => .error (invalidGitField (lit name))

def notIterable : GateError := ⟨.valueError, lit "TypeError", lit "object is not iterable"⟩

-- tuple(value): a list gives its items, an object its keys and a string its characters.
def tupleItems : Json → Except GateError (List Json)
  | .arr items => .ok items
  | .obj fields => .ok (fields.map (fun field => .str field.1))
  | .str value => .ok (value.map (fun c => .str [c]))
  | _ => .error notIterable

def boundaryItems (fields : Fields) : Except GateError (List Json) :=
  match Json.field? (lit "boundary_commit_shas") fields with
  | none => .ok []
  | some value => tupleItems value

def boundaryCommit : Json → Except GateError Str
  | .str value => do
    raiseIf (isCommitSha value = false) (invalidGitField (lit "boundary_commit_shas item"))
    return value
  | _ => .error (invalidGitField (lit "boundary_commit_shas item"))

def detailFields : ObservationKind → List Str
  | .checkout => [lit "commit_sha", lit "ref_name", lit "detached", lit "remote_sha256"]
  | .commit => [lit "commit_sha"]
  | .ref => [lit "commit_sha", lit "ref_name", lit "detached"]
  | .worktreeStatus =>
    [lit "commit_sha", lit "ref_name", lit "detached", lit "dirty", lit "diff_artifact_id"]
  | .diff => [lit "commit_sha", lit "base_commit_sha", lit "diff_artifact_id"]
  | .ancestry => [lit "ancestor_sha", lit "descendant_sha", lit "relation"]
  | .objectAvailability =>
    [lit "object_sha", lit "object_type", lit "availability", lit "unavailable_reason"]
  | .shallowState => [lit "shallow", lit "boundary_commit_shas"]

def refMatchesDetached (refName : Option Str) (detached : Bool) : Except GateError Unit := do
  raiseIf (detached = true ∧ refName ≠ none)
    (invalidGit (lit "detached observation cannot name ref_name"))
  raiseIf (detached = false ∧ refName = none)
    (invalidGit (lit "attached observation requires ref_name"))

def required {α : Type} (value : Option α) (message : String) : Except GateError α :=
  demand value (invalidGit (lit message))

def verifyHeadShape (d : GitObservationDetails) (subject : String) : Except GateError Unit := do
  let _ ← required d.commitSha (subject ++ " requires commit_sha")
  let detached ← required d.detached (subject ++ " requires detached")
  refMatchesDetached d.refName detached

def verifyWorktreeShape (d : GitObservationDetails) : Except GateError Unit := do
  let _ ← required d.commitSha "worktree status requires commit_sha"
  let detached ← required d.detached "worktree status requires detached"
  let _ ← required d.dirty "worktree status requires dirty"
  refMatchesDetached d.refName detached

def verifyDiffShape (d : GitObservationDetails) : Except GateError Unit := do
  let _ ← required d.commitSha "diff observation requires commit_sha"
  let _ ← required d.diffArtifactId "diff observation requires artifact"
  return ()

def verifyAncestryShape (d : GitObservationDetails) : Except GateError Unit := do
  let ancestor ← required d.ancestorSha "ancestry requires ancestor_sha"
  let descendant ← required d.descendantSha "ancestry requires descendant_sha"
  let relation ← required d.relation "ancestry requires relation"
  raiseIf (ancestor = descendant ∧ relation ≠ .ancestor)
    (invalidGit (lit "a commit must be its own ancestor"))

def verifyObjectShape (d : GitObservationDetails) : Except GateError Unit := do
  let _ ← required d.objectSha "object availability requires object_sha"
  let _ ← required d.objectType "object availability requires object_type"
  let availability ← required d.availability "object availability requires availability"
  raiseIf (availability = .available ∧ d.unavailableReason ≠ none)
    (invalidGit (lit "available object cannot have unavailable_reason"))
  raiseIf (availability ≠ .available ∧ d.unavailableReason = none)
    (invalidGit (lit "unavailable or unknown object requires a reason"))

def verifyShallowShape (d : GitObservationDetails) : Except GateError Unit := do
  let shallow ← required d.shallow "shallow state requires shallow"
  raiseIf (shallow = false ∧ d.boundaryCommitShas ≠ [])
    (invalidGit (lit "non-shallow repository cannot name shallow boundaries"))

-- The fields of other kinds are absent from the payload, so the check that forbids them is left out.
def verifyShape (d : GitObservationDetails) : Except GateError Unit :=
  match d.observationKind with
  | .checkout => verifyHeadShape d "checkout"
  | .commit => do
    let _ ← required d.commitSha "commit observation requires commit_sha"
    return ()
  | .ref => verifyHeadShape d "ref observation"
  | .worktreeStatus => verifyWorktreeShape d
  | .diff => verifyDiffShape d
  | .ancestry => verifyAncestryShape d
  | .objectAvailability => verifyObjectShape d
  | .shallowState => verifyShallowShape d

def plainMapping : Json → Except GateError Fields
  | .obj fields => .ok fields
  | _ => .error (invalidGit (lit "Git observation payload is invalid"))

def readDetails (kind : ObservationKind) (fields : Fields) :
    Except GateError GitObservationDetails := do
  let items ← boundaryItems fields
  let commitSha ← optionalText isCommitSha fields "commit_sha"
  let baseCommitSha ← optionalText isCommitSha fields "base_commit_sha"
  let ancestorSha ← optionalText isCommitSha fields "ancestor_sha"
  let descendantSha ← optionalText isCommitSha fields "descendant_sha"
  let objectSha ← optionalText isCommitSha fields "object_sha"
  let refName ← optionalText isGitRefName fields "ref_name"
  let remoteSha256 ← optionalText validDigest fields "remote_sha256"
  let diffArtifactId ← optionalText isArtifactId fields "diff_artifact_id"
  let detached ← optionalBool fields "detached"
  let dirty ← optionalBool fields "dirty"
  let shallow ← optionalBool fields "shallow"
  let relation ← optionalMember relationValues AncestryRelation.text fields "relation"
  let objectType ← optionalMember objectTypes ObjectType.text fields "object_type"
  let availability ← optionalMember availabilityValues ObjectAvailability.text fields "availability"
  let unavailableReason ←
    optionalMember unavailableReasons UnavailableReason.text fields "unavailable_reason"
  raiseIf (maxBoundaryCommits < items.length)
    (invalidGit (lit "boundary_commit_shas must be a bounded tuple"))
  let boundaries ← collect boundaryCommit items
  raiseIf (¬boundaries.Nodup) (invalidGit (lit "boundary_commit_shas must be unique"))
  return {
    observationKind := kind, commitSha, baseCommitSha, refName, detached, dirty, remoteSha256,
    diffArtifactId, ancestorSha, descendantSha, relation, objectSha, objectType, availability,
    unavailableReason, shallow, boundaryCommitShas := sortedStrs boundaries }

def parseDetails (kind : ObservationKind) (value : Json) : Except GateError GitObservationDetails := do
  let fields ← plainMapping value
  raiseIf (keysAre fields (detailFields kind) = false)
    (invalidGit (lit "Git observation details fields are invalid"))
  let details ← readDetails kind fields
  verifyShape details
  return details

end Details

section Records

def jsonBool (b : Option Bool) : Json := b.elim .null .bool

def jsonText {α : Type} (text : α → Str) (a : Option α) : Json := jsonOptional (a.map text)

def GitObservationDetails.toDict (d : GitObservationDetails) : Json :=
  match d.observationKind with
  | .checkout =>
    .obj [(lit "commit_sha", jsonOptional d.commitSha), (lit "ref_name", jsonOptional d.refName),
      (lit "detached", jsonBool d.detached), (lit "remote_sha256", jsonOptional d.remoteSha256)]
  | .commit => .obj [(lit "commit_sha", jsonOptional d.commitSha)]
  | .ref =>
    .obj [(lit "commit_sha", jsonOptional d.commitSha), (lit "ref_name", jsonOptional d.refName),
      (lit "detached", jsonBool d.detached)]
  | .worktreeStatus =>
    .obj [(lit "commit_sha", jsonOptional d.commitSha), (lit "ref_name", jsonOptional d.refName),
      (lit "detached", jsonBool d.detached), (lit "dirty", jsonBool d.dirty),
      (lit "diff_artifact_id", jsonOptional d.diffArtifactId)]
  | .diff =>
    .obj [(lit "commit_sha", jsonOptional d.commitSha),
      (lit "base_commit_sha", jsonOptional d.baseCommitSha),
      (lit "diff_artifact_id", jsonOptional d.diffArtifactId)]
  | .ancestry =>
    .obj [(lit "ancestor_sha", jsonOptional d.ancestorSha),
      (lit "descendant_sha", jsonOptional d.descendantSha),
      (lit "relation", jsonText AncestryRelation.text d.relation)]
  | .objectAvailability =>
    .obj [(lit "object_sha", jsonOptional d.objectSha),
      (lit "object_type", jsonText ObjectType.text d.objectType),
      (lit "availability", jsonText ObjectAvailability.text d.availability),
      (lit "unavailable_reason", jsonText UnavailableReason.text d.unavailableReason)]
  | .shallowState =>
    .obj [(lit "shallow", jsonBool d.shallow),
      (lit "boundary_commit_shas", .arr (d.boundaryCommitShas.map .str))]

structure GitObservationRecordRef where
  traceId : Str
  runId : Str
  repositoryId : Str
  checkoutAlias : Str
  sequence : Nat
  occurredAt : Str
  authorizationEventId : Str
  source : EventSource
  details : GitObservationDetails
  artifactRefs : List EventArtifactRef
  classification : EventClassification
  retentionPolicyId : Str
  gitVersion : Str
  runnerName : Str
  runnerVersion : Str
  algorithmName : Str
  algorithmVersion : Str
  causationEventId : Option Str
  deriving DecidableEq

def contractVersion : Str := lit "tbm.git-observation.v1"

def GitObservationRecordRef.dictFields (r : GitObservationRecordRef) : Fields :=
  [(lit "contract_version", .str contractVersion), (lit "trace_id", .str r.traceId),
    (lit "run_id", .str r.runId), (lit "repository_id", .str r.repositoryId),
    (lit "checkout_alias", .str r.checkoutAlias), (lit "sequence", jsonInt r.sequence),
    (lit "observation_kind", .str r.details.observationKind.text),
    (lit "occurred_at", .str r.occurredAt),
    (lit "authorization_event_id", .str r.authorizationEventId),
    (lit "git_version", .str r.gitVersion), (lit "runner_name", .str r.runnerName),
    (lit "runner_version", .str r.runnerVersion), (lit "algorithm_name", .str r.algorithmName),
    (lit "algorithm_version", .str r.algorithmVersion),
    (lit "artifact_ids", .arr (r.artifactRefs.map (fun a => .str a.artifactId))),
    (lit "details", r.details.toDict), (lit "causation_event_id", jsonOptional r.causationEventId)]

def GitObservationRecordRef.toProjectionDict (r : GitObservationRecordRef) : Json :=
  .obj (r.dictFields ++ [(lit "source", r.source.toDict),
    (lit "artifact_refs", .arr (r.artifactRefs.map EventArtifactRef.toDict)),
    (lit "classification", .str r.classification.text),
    (lit "retention_policy_id", .str r.retentionPolicyId)])

def requiredText (accepts : Str → Bool) (fields : Fields) (name : String) : Except GateError Str :=
  match valueAt fields (lit name) with
  | .str value => do
    raiseIf (accepts value = false) (invalidGitField (lit name))
    return value
  | _ => .error (invalidGitField (lit name))

def readSequence (fields : Fields) : Except GateError Nat :=
  match valueAt fields (lit "sequence") with
  | .num (.int n) => do
    raiseIf (¬(1 ≤ n ∧ n ≤ maxSequence))
      (invalidGit (lit "sequence must be a bounded positive integer"))
    return n.toNat
  | _ => .error (invalidGit (lit "sequence must be a bounded positive integer"))

def canonicalTimestamp (value name : Str) : Except GateError Str :=
  match canonicalRfc3339 value with
  | .ok canonical => .ok canonical
  | .error e => .error (if e.fault = .overflow then e else invalidGitField name)

def readOccurredAt (fields : Fields) (source : EventSource) : Except GateError Str := do
  let occurredAt ← requiredText (fun _ => true) fields "occurred_at"
  let occurred ← canonicalTimestamp occurredAt (lit "occurred_at")
  let observed ← canonicalTimestamp source.observedAt (lit "source.observed_at")
  raiseIf (occurredAt ≠ occurred) (invalidGit (lit "occurred_at must use canonical UTC RFC 3339"))
  raiseIf (source.observedAt ≠ observed)
    (invalidGit (lit "source observed_at must use canonical UTC RFC 3339"))
  return occurredAt

def checkArtifactRefs (refs : List EventArtifactRef) (diffArtifactId : Option Str) :
    Except GateError Unit := do
  raiseIf (¬(refs.map EventArtifactRef.artifactId).Nodup) (invalidGit (lit "artifact_refs must be unique"))
  raiseIf (refs.map EventArtifactRef.artifactId ≠ diffArtifactId.toList)
    (invalidGit (lit "artifact_refs must exactly match the Git diff artifact"))

def readRecord (e : EventEnvelope) (source : EventSource) (details : GitObservationDetails)
    (fields : Fields) : Except GateError GitObservationRecordRef := do
  let traceId ← requiredText isBoundedIdentifier fields "trace_id"
  let runId ← requiredText isBoundedIdentifier fields "run_id"
  let repositoryId ← requiredText isBoundedIdentifier fields "repository_id"
  let checkoutAlias ← requiredText isBoundedIdentifier fields "checkout_alias"
  let authorizationEventId ← requiredText isBoundedIdentifier fields "authorization_event_id"
  raiseIf (isBoundedIdentifier e.retentionPolicyId = false)
    (invalidGitField (lit "retention_policy_id"))
  let runnerName ← requiredText isBoundedIdentifier fields "runner_name"
  let algorithmName ← requiredText isBoundedIdentifier fields "algorithm_name"
  let gitVersion ← requiredText isEvidenceVersion fields "git_version"
  let runnerVersion ← requiredText isEvidenceVersion fields "runner_version"
  let algorithmVersion ← requiredText isEvidenceVersion fields "algorithm_version"
  let sequence ← readSequence fields
  let causationEventId ← optionalText isEventId fields "causation_event_id"
  let occurredAt ← readOccurredAt fields source
  checkArtifactRefs e.artifactRefs details.diffArtifactId
  return {
    traceId, runId, repositoryId, checkoutAlias, sequence, occurredAt, authorizationEventId, source,
    details, artifactRefs := e.artifactRefs, classification := e.classification,
    retentionPolicyId := e.retentionPolicyId, gitVersion, runnerName, runnerVersion, algorithmName,
    algorithmVersion, causationEventId }

end Records

section Envelopes

variable (sha : Sha256)

def partitionFields (e : EventEnvelope) : Fields :=
  [(lit "organization_id", .str e.organizationId), (lit "tenant_id", .str e.tenantId),
    (lit "repository_id", .str e.repositoryId), (lit "environment_id", .str e.environmentId)]

def gitObservationStreamId (e : EventEnvelope) (r : GitObservationRecordRef) : Str :=
  lit "git_observation_" ++ (GateEvents.removeTag (sha.domain
    (lit "tbm.git-observation-stream.v1\x00")
    (.obj (partitionFields e ++ [(lit "trace_id", .str r.traceId), (lit "run_id", .str r.runId),
      (lit "checkout_alias", .str r.checkoutAlias)])))).take 48

def gitObservationEventId (e : EventEnvelope) (streamId : Str) (sequence : Nat) : Str :=
  lit "evt_git_" ++ GateEvents.removeTag (sha.domain
    (lit "tbm.git-observation-event-identity.v1\x00")
    (.obj (partitionFields e ++ [(lit "stream_id", .str streamId), (lit "sequence", jsonInt sequence)])))

def batchIdentitySha256 (e : EventEnvelope) (streamId : Str) (firstSequence batchSize : Nat) : Str :=
  sha.domain (lit "tbm.git-observation-batch-identity.v1\x00")
    (.obj (partitionFields e ++ [(lit "stream_id", .str streamId),
      (lit "first_sequence", jsonInt firstSequence), (lit "batch_size", jsonInt batchSize)]))

def trustedContextFields (e : EventEnvelope) : Fields :=
  partitionFields e ++ [(lit "principal_id", .str e.principalId),
    (lit "agent_client_id", .str e.agentClientId), (lit "actor_type", .str e.actorType.text),
    (lit "actor_id", .str e.actorId),
    (lit "authorization_decision_id", .str e.authorizationDecisionId)]

def batchCommandSha256 (references : List GitObservationRecordRef) (recordedAt : Str)
    (e : EventEnvelope) : Str :=
  sha.domain (lit "tbm.git-observation-batch-command.v1\x00")
    (.obj [(lit "records", .arr (references.map GitObservationRecordRef.toProjectionDict)),
      (lit "recorded_at", .str recordedAt), (lit "trusted_context", .obj (trustedContextFields e))])

def correlationId (traceId runId : Str) : Str :=
  lit "git_observation_correlation_" ++ (GateEvents.removeTag (sha.domain
    (lit "tbm.git-observation-correlation.v1\x00")
    (.obj [(lit "trace_id", .str traceId), (lit "run_id", .str runId)]))).take 40

def requestId (batchIdentity : Str) : Str :=
  lit "git_observation_request_" ++ (GateEvents.removeTag batchIdentity).take 40

def batchDescriptor (fields : Fields) (sequence : Nat) : Except GateError (Nat × Nat) :=
  match valueAt fields (lit "batch_first_sequence"), valueAt fields (lit "batch_size") with
  | .num (.int first), .num (.int size) => do
    raiseIf (¬(1 ≤ first ∧ first ≤ maxSequence ∧ 1 ≤ size ∧ size ≤ maxAppendBatch ∧
        first ≤ sequence ∧ (sequence : Int) < first + size ∧ first + size - 1 ≤ maxSequence))
      (invalidGit (lit "Git observation batch descriptor is invalid"))
    return (first.toNat, size.toNat)
  | _, _ => .error (invalidGit (lit "Git observation batch descriptor is invalid"))

def verifyDeterministicEnvelope (e : EventEnvelope) (r : GitObservationRecordRef) (first size : Nat) :
    Except GateError Unit := do
  let streamId := gitObservationStreamId sha e r
  let identity := batchIdentitySha256 sha e streamId first size
  raiseIf (e.streamId ≠ streamId ∨ e.eventId ≠ gitObservationEventId sha e streamId r.sequence ∨
      e.idempotencyKeySha256 ≠ identity ∨ e.requestId ≠ requestId identity ∨
      e.correlationId ≠ correlationId sha r.traceId r.runId ∨
      e.producer ≠ GateEvents.producerName ∨ e.producerVersion ≠ GateEvents.producerVersionText)
    (invalidGit (lit "Git observation deterministic envelope is invalid"))

def streamType : Str := lit "git_observation"

def observationFields : List Str :=
  [lit "contract_version", lit "trace_id", lit "run_id", lit "repository_id", lit "checkout_alias",
    lit "sequence", lit "observation_kind", lit "occurred_at", lit "authorization_event_id",
    lit "git_version", lit "runner_name", lit "runner_version", lit "algorithm_name",
    lit "algorithm_version", lit "artifact_ids", lit "details", lit "causation_event_id",
    lit "batch_first_sequence", lit "batch_size"]

def envelopeInvalid (e : EventEnvelope) : Prop :=
  e.eventVersion ≠ 1 ∨ e.eventKind ≠ .observation ∨ e.origin ≠ .native ∨
    e.streamType ≠ streamType ∨ e.payloadSchema ≠ e.eventType ++ lit ".v1"

instance decidableEnvelopeInvalid (e : EventEnvelope) : Decidable (envelopeInvalid e) :=
  inferInstanceAs (Decidable (_ ∨ _))

def linkage (e : EventEnvelope) (kind : ObservationKind) (occurredAt : Str) : Fields :=
  [(lit "contract_version", .str contractVersion), (lit "observation_kind", .str kind.text),
    (lit "sequence", jsonInt e.streamVersion), (lit "occurred_at", .str occurredAt),
    (lit "repository_id", .str e.repositoryId),
    (lit "authorization_event_id", .str e.authorizationDecisionId),
    (lit "causation_event_id", jsonOptional e.causationId),
    (lit "artifact_ids", .arr (e.artifactRefs.map (fun a => .str a.artifactId)))]

def invalidEnvelope : GateError := invalidGit (lit "Git observation envelope is invalid")

def parseGitObservation (e : EventEnvelope) : Except GateError GitObservationRecordRef := do
  let kind ← demand (kindByEventType e.eventType) invalidEnvelope
  raiseIf (envelopeInvalid e) invalidEnvelope
  let source ← demand e.source invalidEnvelope
  let occurredAt ← demand e.occurredAt invalidEnvelope
  let fields ← plainMapping e.payload
  raiseIf (keysAre fields observationFields = false)
    (invalidGit (lit "Git observation payload fields are invalid"))
  raiseIf (∃ field ∈ linkage e kind occurredAt, (valueAt fields field.1).pyEq field.2 = false)
    (invalidGit (lit "Git observation linkage is invalid"))
  let details ← parseDetails kind (valueAt fields (lit "details"))
  let r ← readRecord e source details fields
  let (first, size) ← batchDescriptor fields r.sequence
  verifyDeterministicEnvelope sha e r first size
  raiseIf (size = 1 ∧ e.requestSha256 ≠ batchCommandSha256 sha [r] e.recordedAt e)
    (invalidGit (lit "Git observation singleton command digest is invalid"))
  return r

end Envelopes

end GitGraph

end TraceBackedMemory
