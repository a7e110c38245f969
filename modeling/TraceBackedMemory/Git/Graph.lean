import TraceBackedMemory.Git.Observations
import TraceBackedMemory.Projection.Reducer

namespace TraceBackedMemory

open Text Raising Projection

open Json (Fields)

namespace GitGraph

variable {sha : Sha256}

section States

structure Provenance where
  eventId : Str
  eventSha256 : Str
  streamId : Str
  streamVersion : Nat
  globalPosition : Nat
  occurredAt : Str
  recordedAt : Str
  observedAt : Str
  evidenceQuality : EventEvidenceQuality
  sourceSystem : Str
  sourceRecordId : Str
  authorizationDecisionId : Str
  principalId : Str
  agentClientId : Str
  actorType : EventActorType
  actorId : Str
  traceId : Str
  runId : Str
  checkoutAlias : Str
  deriving DecidableEq

structure CommitNode where
  commitSha : Str
  observationCount : Nat
  lastObservation : Provenance

-- assertion_counts, assertions and observation_count, which relations and objects both keep
structure Tally (α : Type) where
  assertionCounts : α → Nat
  assertions : α → Option Provenance
  observationCount : Nat

structure RelationState where
  ancestorSha : Str
  descendantSha : Str
  tally : Tally AncestryRelation
  latestAssertion : AncestryRelation
  effectiveRelation : AncestryRelation
  relationConfidence : EventEvidenceQuality
  conflicted : Bool
  lastObservation : Provenance

structure MissingObject where
  objectSha : Str
  objectType : ObjectType
  availability : ObjectAvailability
  unavailableReason : Option UnavailableReason
  lastObservation : Provenance
  deriving DecidableEq

structure ObjectState extends MissingObject where
  tally : Tally ObjectAvailability

inductive Movement where
  | unmoved | unknown
  deriving DecidableEq

structure RefState where
  refName : Str
  currentCommitSha : Str
  observedCommitShas : List Str
  observationCount : Nat
  moved : Bool
  movementClassification : Movement
  lastObservation : Provenance

structure CheckoutState where
  checkoutAlias : Str
  commitSha : Option Str := none
  refName : Option Str := none
  detached : Option Bool := none
  dirty : Option Bool := none
  diffArtifactId : Option Str := none
  diffBaseCommitSha : Option Str := none
  remoteSha256 : Option Str := none
  shallow : Option Bool := none
  boundaryCommitShas : List Str := []
  refs : Dict Str RefState := Dict.empty
  lastObservation : Option Provenance := none

-- direct_parent_edges, source_fix_verification_relationships and pr_anchors stay empty lists.
structure RepositoryState where
  repositoryId : Str
  commits : Dict Str CommitNode := Dict.empty
  relations : Dict Str RelationState := Dict.empty
  objects : Dict Str ObjectState := Dict.empty
  missingObjects : Dict Str MissingObject := Dict.empty
  checkouts : Dict Str CheckoutState := Dict.empty
  lastObservation : Option Provenance := none

structure Scope where
  organizationId : Str
  tenantId : Str
  repositoryId : Str
  environmentId : Str
  deriving DecidableEq

structure StreamHead where
  streamVersion : Nat
  eventId : Str
  eventSha256 : Str
  globalPosition : Nat
  scope : Scope
  authorizationDecisionId : Str
  traceId : Str
  runId : Str
  checkoutAlias : Str
  deriving DecidableEq

structure GraphState where
  scope : Option Scope := none
  repository : Option RepositoryState := none
  heads : Dict Str StreamHead := Dict.empty
  lastGlobalPosition : Nat := 0

def initialGraph : GraphState := {}

end States

section Serialization

def dictJson {α : Type} (toJson : α → Json) (d : Dict Str α) : Json :=
  .obj (d.entries.map (fun entry => (entry.1, toJson entry.2)))

def Provenance.toJson (p : Provenance) : Json :=
  .obj [(lit "event_id", .str p.eventId), (lit "event_sha256", .str p.eventSha256),
    (lit "stream_id", .str p.streamId), (lit "stream_version", jsonInt p.streamVersion),
    (lit "global_position", jsonInt p.globalPosition), (lit "occurred_at", .str p.occurredAt),
    (lit "recorded_at", .str p.recordedAt), (lit "observed_at", .str p.observedAt),
    (lit "evidence_quality", .str p.evidenceQuality.text), (lit "source_system", .str p.sourceSystem),
    (lit "source_record_id", .str p.sourceRecordId),
    (lit "authorization_decision_id", .str p.authorizationDecisionId),
    (lit "principal_id", .str p.principalId), (lit "agent_client_id", .str p.agentClientId),
    (lit "actor_type", .str p.actorType.text), (lit "actor_id", .str p.actorId),
    (lit "trace_id", .str p.traceId), (lit "run_id", .str p.runId),
    (lit "checkout_alias", .str p.checkoutAlias)]

def optionalJson {α : Type} (toJson : α → Json) (a : Option α) : Json := a.elim .null toJson

def CommitNode.toJson (n : CommitNode) : Json :=
  .obj [(lit "commit_sha", .str n.commitSha), (lit "observation_count", jsonInt n.observationCount),
    (lit "last_observation", n.lastObservation.toJson)]

def Tally.countsJson {α : Type} (values : List α) (text : α → Str) (t : Tally α) : Json :=
  .obj (values.map (fun a => (text a, jsonInt (t.assertionCounts a))))

def Tally.assertionsJson {α : Type} (values : List α) (text : α → Str) (t : Tally α) : Json :=
  .obj (values.filterMap (fun a => (t.assertions a).map (fun p => (text a, p.toJson))))

def RelationState.toJson (r : RelationState) : Json :=
  .obj [(lit "ancestor_sha", .str r.ancestorSha), (lit "descendant_sha", .str r.descendantSha),
    (lit "assertion_counts", r.tally.countsJson relationValues AncestryRelation.text),
    (lit "assertions", r.tally.assertionsJson relationValues AncestryRelation.text),
    (lit "observation_count", jsonInt r.tally.observationCount),
    (lit "latest_assertion", .str r.latestAssertion.text),
    (lit "effective_relation", .str r.effectiveRelation.text),
    (lit "relation_confidence", .str r.relationConfidence.text),
    (lit "conflicted", .bool r.conflicted), (lit "last_observation", r.lastObservation.toJson)]

def MissingObject.toJson (o : MissingObject) : Json :=
  .obj [(lit "object_sha", .str o.objectSha), (lit "object_type", .str o.objectType.text),
    (lit "availability", .str o.availability.text),
    (lit "unavailable_reason", jsonText UnavailableReason.text o.unavailableReason),
    (lit "last_observation", o.lastObservation.toJson)]

def ObjectState.toJson (o : ObjectState) : Json :=
  .obj [(lit "object_sha", .str o.objectSha), (lit "object_type", .str o.objectType.text),
    (lit "assertion_counts", o.tally.countsJson availabilityValues ObjectAvailability.text),
    (lit "assertions", o.tally.assertionsJson availabilityValues ObjectAvailability.text),
    (lit "observation_count", jsonInt o.tally.observationCount),
    (lit "availability", .str o.availability.text),
    (lit "unavailable_reason", jsonText UnavailableReason.text o.unavailableReason),
    (lit "last_observation", o.lastObservation.toJson)]

def Movement.text : Movement → Str
  | .unmoved => lit "unmoved"
  | .unknown => lit "unknown"

def RefState.toJson (r : RefState) : Json :=
  .obj [(lit "ref_name", .str r.refName), (lit "current_commit_sha", .str r.currentCommitSha),
    (lit "observed_commit_shas", .arr (r.observedCommitShas.map .str)),
    (lit "observation_count", jsonInt r.observationCount), (lit "moved", .bool r.moved),
    (lit "movement_classification", .str r.movementClassification.text),
    (lit "last_observation", r.lastObservation.toJson)]

def CheckoutState.toJson (c : CheckoutState) : Json :=
  .obj [(lit "checkout_alias", .str c.checkoutAlias), (lit "commit_sha", jsonOptional c.commitSha),
    (lit "ref_name", jsonOptional c.refName), (lit "detached", jsonBool c.detached),
    (lit "dirty", jsonBool c.dirty), (lit "diff_artifact_id", jsonOptional c.diffArtifactId),
    (lit "diff_base_commit_sha", jsonOptional c.diffBaseCommitSha),
    (lit "remote_sha256", jsonOptional c.remoteSha256), (lit "shallow", jsonBool c.shallow),
    (lit "boundary_commit_shas", .arr (c.boundaryCommitShas.map .str)),
    (lit "refs", dictJson RefState.toJson c.refs),
    (lit "last_observation", optionalJson Provenance.toJson c.lastObservation)]

def RepositoryState.toJson (r : RepositoryState) : Json :=
  .obj [(lit "repository_id", .str r.repositoryId), (lit "commits", dictJson CommitNode.toJson r.commits),
    (lit "relations", dictJson RelationState.toJson r.relations),
    (lit "objects", dictJson ObjectState.toJson r.objects),
    (lit "missing_objects", dictJson MissingObject.toJson r.missingObjects),
    (lit "checkouts", dictJson CheckoutState.toJson r.checkouts), (lit "direct_parent_edges", .arr []),
    (lit "source_fix_verification_relationships", .arr []), (lit "pr_anchors", .arr []),
    (lit "last_observation", optionalJson Provenance.toJson r.lastObservation)]

def Scope.fields (s : Scope) : Fields :=
  [(lit "organization_id", .str s.organizationId), (lit "tenant_id", .str s.tenantId),
    (lit "repository_id", .str s.repositoryId), (lit "environment_id", .str s.environmentId)]

def StreamHead.toJson (h : StreamHead) : Json :=
  .obj ([(lit "stream_version", jsonInt h.streamVersion), (lit "event_id", .str h.eventId),
    (lit "event_sha256", .str h.eventSha256), (lit "global_position", jsonInt h.globalPosition)] ++
    h.scope.fields ++ [(lit "authorization_decision_id", .str h.authorizationDecisionId),
      (lit "trace_id", .str h.traceId), (lit "run_id", .str h.runId),
      (lit "checkout_alias", .str h.checkoutAlias)])

def GraphState.toJson (s : GraphState) : Json :=
  .obj [(lit "scope", optionalJson (fun scope => .obj (Scope.fields scope)) s.scope),
    (lit "repository", optionalJson RepositoryState.toJson s.repository),
    (lit "heads", dictJson StreamHead.toJson s.heads),
    (lit "last_global_position", jsonInt s.lastGlobalPosition)]

end Serialization

section Rejection

def rejectText (message : Str) : TransitionFault :=
  .reducer ⟨.reducerExecution, lit "TBM_GIT_GRAPH_REDUCER_EVENT_INVALID", message⟩

def reject (message : String) : TransitionFault := rejectText (lit message)

def maxCommits : Nat := 20000

def maxRelations : Nat := 50000

def maxObjects : Nat := 20000

def maxCheckouts : Nat := 1024

def maxRefsPerCheckout : Nat := 10000

def retain (accepted : Bool) (name : Str) : Except TransitionFault Unit :=
  raiseIf (accepted = false) (rejectText (lit "retained " ++ name ++ lit " is invalid"))

def retainEach (accepts : Str → Bool) (owner : Str) (fields : List (Str × Str)) :
    Except TransitionFault Unit :=
  checkEach (fun f => retain (accepts f.2) (owner ++ f.1)) fields

def canonicalTime (value : Str) : Bool := decide (canonicalRfc3339 value = .ok value)

end Rejection

section Validation

def validateProvenance (p : Provenance) (name : Str) (last : Nat) : Except TransitionFault Unit := do
  retain (isEventId p.eventId) (name ++ lit " event_id")
  retain (validDigest p.eventSha256) (name ++ lit " event_sha256")
  retainEach isBoundedIdentifier (name ++ lit " ")
    [(lit "stream_id", p.streamId), (lit "source_system", p.sourceSystem),
      (lit "source_record_id", p.sourceRecordId),
      (lit "authorization_decision_id", p.authorizationDecisionId),
      (lit "principal_id", p.principalId), (lit "agent_client_id", p.agentClientId),
      (lit "actor_id", p.actorId), (lit "trace_id", p.traceId), (lit "run_id", p.runId),
      (lit "checkout_alias", p.checkoutAlias)]
  retain (decide (1 ≤ p.streamVersion ∧ p.streamVersion ≤ maxSequence)) (name ++ lit " stream version")
  retain (decide (1 ≤ p.globalPosition)) (name ++ lit " global position")
  retain (decide (p.globalPosition ≤ last)) (name ++ lit " position")
  retainEach canonicalTime (name ++ lit " ")
    [(lit "occurred_at", p.occurredAt), (lit "recorded_at", p.recordedAt),
      (lit "observed_at", p.observedAt)]

def validateCommit (last : Nat) (entry : Str × CommitNode) : Except TransitionFault Unit := do
  retain (isCommitSha entry.1) (lit "commit key")
  raiseIf (entry.2.commitSha ≠ entry.1) (reject "retained Git graph commit node is invalid")
  retain (decide (1 ≤ entry.2.observationCount)) (lit "commit observation count")
  validateProvenance entry.2.lastObservation (lit "commit last observation") last

def validateTally {α : Type} (values : List α) (t : Tally α) (subject : String) (last : Nat) :
    Except TransitionFault Unit := do
  raiseIf (∃ a ∈ values, (t.assertions a).isSome = true ↔ t.assertionCounts a = 0)
    (reject ("retained Git graph " ++ subject ++ " assertions are invalid"))
  checkEach (fun p => validateProvenance p (lit (subject ++ " assertion provenance")) last)
    (values.filterMap t.assertions)
  retain (decide (1 ≤ t.observationCount)) (lit (subject ++ " observation count"))
  raiseIf (t.observationCount ≠ (values.map t.assertionCounts).sum)
    (reject ("retained Git graph " ++ subject ++ " count is invalid"))

def conflictedCounts (counts : AncestryRelation → Nat) : Bool :=
  decide (0 < counts .ancestor ∧ 0 < counts .notAncestor)

def effectiveCounts (counts : AncestryRelation → Nat) : AncestryRelation :=
  if conflictedCounts counts = true ∨ 0 < counts .unknown ∨
      (counts .ancestor = 0 ∧ counts .notAncestor = 0) then .unknown
  else if 0 < counts .ancestor then .ancestor else .notAncestor

def confidenceOf (t : Tally AncestryRelation) : Option EventEvidenceQuality :=
  if effectiveCounts t.assertionCounts = .unknown then some .unknown
  else (t.assertions (effectiveCounts t.assertionCounts)).map Provenance.evidenceQuality

def relationKey (ancestorSha descendantSha : Str) : Str := ancestorSha ++ lit ":" ++ descendantSha

def validateRelation (commits : Dict Str CommitNode) (last : Nat) (entry : Str × RelationState) :
    Except TransitionFault Unit := do
  let r := entry.2
  retain (isCommitSha r.ancestorSha) (lit "relation ancestor_sha")
  retain (isCommitSha r.descendantSha) (lit "relation descendant_sha")
  raiseIf (entry.1 ≠ relationKey r.ancestorSha r.descendantSha ∨
      commits.contains r.ancestorSha = false ∨ commits.contains r.descendantSha = false)
    (reject "retained Git graph relation key is invalid")
  validateTally relationValues r.tally "relation" last
  raiseIf (r.tally.assertionCounts r.latestAssertion = 0)
    (reject "retained Git graph latest assertion is invalid")
  validateProvenance r.lastObservation (lit "relation last observation") last
  raiseIf (r.tally.assertions r.latestAssertion ≠ some r.lastObservation)
    (reject "retained Git graph relation provenance is invalid")
  raiseIf (r.conflicted ≠ conflictedCounts r.tally.assertionCounts ∨
      r.effectiveRelation ≠ effectiveCounts r.tally.assertionCounts ∨
      some r.relationConfidence ≠ confidenceOf r.tally)
    (reject "retained Git graph effective relation is invalid")

def objectKeyText (objectType : ObjectType) (objectSha : Str) : Str :=
  objectType.text ++ lit ":" ++ objectSha

def validateObject (commits : Dict Str CommitNode) (last : Nat) (entry : Str × ObjectState) :
    Except TransitionFault Unit := do
  let o := entry.2
  retain (isCommitSha o.objectSha) (lit "object_sha")
  raiseIf (entry.1 ≠ objectKeyText o.objectType o.objectSha ∨
      (o.objectType = .commit ∧ commits.contains o.objectSha = false))
    (reject "retained Git graph object identity is invalid")
  validateTally availabilityValues o.tally "object" last
  raiseIf (o.tally.assertionCounts o.availability = 0)
    (reject "retained Git graph object availability is invalid")
  raiseIf (o.availability = .available ∧ o.unavailableReason ≠ none)
    (reject "retained available Git object reason is invalid")
  raiseIf (o.availability ≠ .available ∧ o.unavailableReason = none)
    (reject "retained unavailable Git object reason is invalid")
  validateProvenance o.lastObservation (lit "object last observation") last
  raiseIf (o.tally.assertions o.availability ≠ some o.lastObservation)
    (reject "retained Git graph object provenance is invalid")

-- observed != sorted(set(observed))
def strictlySorted (l : List Str) : Bool := decide (l.Pairwise (· < ·))

def movementOf (moved : Bool) : Movement := if moved then .unknown else .unmoved

def validateRef (commits : Dict Str CommitNode) (last : Nat) (entry : Str × RefState) :
    Except TransitionFault Unit := do
  let r := entry.2
  retain (isGitRefName entry.1) (lit "ref name")
  raiseIf (r.refName ≠ entry.1) (reject "retained Git graph ref state is invalid")
  retain (isCommitSha r.currentCommitSha) (lit "ref current_commit_sha")
  raiseIf (maxCommits < r.observedCommitShas.length ∨ r.observedCommitShas.all isCommitSha = false ∨
      strictlySorted r.observedCommitShas = false ∨ r.currentCommitSha ∉ r.observedCommitShas ∨
      r.observedCommitShas.all commits.contains = false)
    (reject "retained Git graph ref commits are invalid")
  retain (decide (1 ≤ r.observationCount)) (lit "ref observation count")
  raiseIf (r.observationCount < r.observedCommitShas.length)
    (reject "retained Git graph ref count is invalid")
  raiseIf (r.moved ≠ decide (1 < r.observedCommitShas.length) ∨
      r.movementClassification ≠ movementOf (decide (1 < r.observedCommitShas.length)))
    (reject "retained Git graph ref movement is invalid")
  validateProvenance r.lastObservation (lit "ref last observation") last

def knownCommit (commits : Dict Str CommitNode) (value : Option Str) (field message : String) :
    Except TransitionFault Unit :=
  match value with
  | none => .ok ()
  | some commit => do
    retain (isCommitSha commit) (lit field)
    raiseIf (commits.contains commit = false) (reject message)

def acceptedText (accepts : Str → Bool) (value : Option Str) (field : String) :
    Except TransitionFault Unit :=
  match value with
  | none => .ok ()
  | some text => retain (accepts text) (lit field)

def validateCheckout (commits : Dict Str CommitNode) (last : Nat) (entry : Str × CheckoutState) :
    Except TransitionFault Unit := do
  let c := entry.2
  retain (isBoundedIdentifier entry.1) (lit "checkout alias")
  raiseIf (c.checkoutAlias ≠ entry.1) (reject "retained Git graph checkout state is invalid")
  knownCommit commits c.commitSha "checkout commit_sha" "retained Git graph checkout commit is invalid"
  acceptedText isGitRefName c.refName "checkout ref_name"
  raiseIf (c.detached = some true ∧ c.refName ≠ none)
    (reject "retained detached Git graph checkout ref is invalid")
  raiseIf (c.detached = some false ∧ c.refName = none)
    (reject "retained attached Git graph checkout ref is invalid")
  acceptedText isArtifactId c.diffArtifactId "checkout diff_artifact_id"
  knownCommit commits c.diffBaseCommitSha "checkout diff_base_commit_sha"
    "retained Git graph checkout diff base is invalid"
  acceptedText validDigest c.remoteSha256 "checkout remote_sha256"
  raiseIf (maxBoundaryCommits < c.boundaryCommitShas.length ∨
      c.boundaryCommitShas.all isCommitSha = false ∨ strictlySorted c.boundaryCommitShas = false ∨
      c.boundaryCommitShas.all commits.contains = false ∨
      (c.shallow = some false ∧ c.boundaryCommitShas ≠ []))
    (reject "retained Git graph shallow boundary state is invalid")
  raiseIf (maxRefsPerCheckout < c.refs.size) (reject "retained Git graph ref limit is invalid")
  checkEach (validateRef commits last) c.refs.entries
  let observation ← demand c.lastObservation
    (reject "checkout last observation projection state is invalid")
  validateProvenance observation (lit "checkout last observation") last

def expectedMissing (objects : Dict Str ObjectState) : Dict Str MissingObject :=
  (objects.filterEntries (fun _ o => decide (o.availability ≠ .available))).mapValues
    (fun _ o => o.toMissingObject)

def sameEntries {α : Type} [DecidableEq α] (d e : Dict Str α) : Bool :=
  decide (d.size = e.size) && d.keys.all (fun k => decide (e.get? k = d.get? k))

def validateRepository (r : RepositoryState) (repositoryId : Str) (last : Nat) :
    Except TransitionFault Unit := do
  raiseIf (r.repositoryId ≠ repositoryId) (reject "retained Git graph repository state is invalid")
  retain (isBoundedIdentifier repositoryId) (lit "repository_id")
  raiseIf (maxCommits < r.commits.size) (reject "retained Git graph commit limit is invalid")
  checkEach (validateCommit last) r.commits.entries
  raiseIf (maxRelations < r.relations.size) (reject "retained Git graph relation limit is invalid")
  checkEach (validateRelation r.commits last) r.relations.entries
  raiseIf (maxObjects < r.objects.size) (reject "retained Git graph object limit is invalid")
  checkEach (validateObject r.commits last) r.objects.entries
  raiseIf (sameEntries r.missingObjects (expectedMissing r.objects) = false)
    (reject "retained Git graph missing object state is invalid")
  raiseIf (maxCheckouts < r.checkouts.size) (reject "retained Git graph checkout limit is invalid")
  checkEach (validateCheckout r.commits last) r.checkouts.entries
  let observation ← demand r.lastObservation
    (reject "repository last observation projection state is invalid")
  validateProvenance observation (lit "repository last observation") last

def Scope.texts (s : Scope) : List (Str × Str) :=
  [(lit "environment_id", s.environmentId), (lit "organization_id", s.organizationId),
    (lit "repository_id", s.repositoryId), (lit "tenant_id", s.tenantId)]

def validateHead (scope : Scope) (last : Nat) (entry : Str × StreamHead) :
    Except TransitionFault Unit := do
  let h := entry.2
  retain (isBoundedIdentifier entry.1) (lit "Git graph head stream_id")
  retain (decide (1 ≤ h.streamVersion)) (lit "head stream version")
  raiseIf (maxSequence < h.streamVersion)
    (reject "retained Git observation head sequence is invalid")
  retain (isEventId h.eventId) (lit "head event_id")
  retain (validDigest h.eventSha256) (lit "head event_sha256")
  retain (decide (1 ≤ h.globalPosition)) (lit "head global position")
  raiseIf (last < h.globalPosition) (reject "retained Git observation head position is invalid")
  retainEach isBoundedIdentifier (lit "head ") h.scope.texts
  raiseIf (h.scope ≠ scope) (reject "retained Git observation head scope is invalid")
  retainEach isBoundedIdentifier (lit "head ")
    [(lit "authorization_decision_id", h.authorizationDecisionId), (lit "trace_id", h.traceId),
      (lit "run_id", h.runId), (lit "checkout_alias", h.checkoutAlias)]

-- No position is past the watermark, so the greatest is the watermark when one head stands there.
def validateHeads (heads : Dict Str StreamHead) (scope : Scope) (last : Nat) :
    Except TransitionFault (Str × StreamHead) := do
  checkEach (validateHead scope last) heads.entries
  raiseIf (¬(heads.entries.map (fun entry => entry.2.globalPosition)).Nodup)
    (reject "retained Git graph head watermark is invalid")
  demand (heads.entries.find? (fun entry => decide (entry.2.globalPosition = last)))
    (reject "retained Git graph head watermark is invalid")

def agrees (p : Provenance) (streamId : Str) (h : StreamHead) : Prop :=
  p.streamId = streamId ∧ p.eventId = h.eventId ∧ p.eventSha256 = h.eventSha256 ∧
    p.streamVersion = h.streamVersion ∧ p.globalPosition = h.globalPosition ∧
    p.authorizationDecisionId = h.authorizationDecisionId ∧ p.traceId = h.traceId ∧
    p.runId = h.runId ∧ p.checkoutAlias = h.checkoutAlias

instance decidableAgrees (p : Provenance) (streamId : Str) (h : StreamHead) :
    Decidable (agrees p streamId h) := inferInstanceAs (Decidable (_ ∧ _))

def validateObserved (s : GraphState) : Except TransitionFault Unit := do
  let scope ← demand s.scope (reject "scope projection state is invalid")
  retainEach isBoundedIdentifier (lit "scope ") scope.texts
  let repository ← demand s.repository (reject "repository projection state is invalid")
  validateRepository repository scope.repositoryId s.lastGlobalPosition
  let latest ← validateHeads s.heads scope s.lastGlobalPosition
  let observation ← demand repository.lastObservation
    (reject "repository last observation projection state is invalid")
  raiseIf (observation.globalPosition ≠ s.lastGlobalPosition ∨ ¬agrees observation latest.1 latest.2)
    (reject "retained Git graph last observation is invalid")

def validateInitial (s : GraphState) : Except TransitionFault Unit := do
  raiseIf (s.scope.isSome = true ∨ s.repository.isSome = true)
    (reject "retained initial Git graph state is invalid")
  raiseIf (s.heads.isEmpty = false) (reject "retained initial Git graph heads are invalid")

def storable (s : GraphState) : Except TransitionFault Unit :=
  match canonicalProjectionState s.toJson with
  | .ok _ => .ok ()
  | .error _ => .error (reject "Git graph projection state is invalid")

def validatedStateCopy (s : GraphState) : Except TransitionFault Unit := do
  storable s
  if s.lastGlobalPosition = 0 then validateInitial s else validateObserved s

end Validation

section Observing

def provenance (e : CanonicalEvent sha) (r : GitObservationRecordRef) : Provenance where
  eventId := e.eventId
  eventSha256 := e.eventSha256
  streamId := e.streamId
  streamVersion := e.streamVersion
  globalPosition := e.globalPosition
  occurredAt := r.occurredAt
  recordedAt := e.recordedAt
  observedAt := r.source.observedAt
  evidenceQuality := r.source.evidenceQuality
  sourceSystem := r.source.sourceSystem
  sourceRecordId := r.source.sourceRecordId
  authorizationDecisionId := r.authorizationEventId
  principalId := e.principalId
  agentClientId := e.agentClientId
  actorType := e.actorType
  actorId := e.actorId
  traceId := r.traceId
  runId := r.runId
  checkoutAlias := r.checkoutAlias

def scopeOf (e : EventEnvelope) : Scope := ⟨e.organizationId, e.tenantId, e.repositoryId, e.environmentId⟩

def headScope (e : EventEnvelope) (r : GitObservationRecordRef) : Scope :=
  ⟨e.organizationId, e.tenantId, r.repositoryId, e.environmentId⟩

def headOf (e : CanonicalEvent sha) (r : GitObservationRecordRef) : StreamHead where
  streamVersion := r.sequence
  eventId := e.eventId
  eventSha256 := e.eventSha256
  globalPosition := e.globalPosition
  scope := headScope e.toEventEnvelope r
  authorizationDecisionId := r.authorizationEventId
  traceId := r.traceId
  runId := r.runId
  checkoutAlias := r.checkoutAlias

def commitShas (d : GitObservationDetails) : List Str :=
  sortedStrs (d.commitSha.toList ++ d.baseCommitSha.toList ++ d.ancestorSha.toList ++
    d.descendantSha.toList ++ (if d.objectType = some .commit then d.objectSha.toList else []) ++
    d.boundaryCommitShas).dedup

def touchCommit (p : Provenance) (commits : Dict Str CommitNode) (commitSha : Str) :
    Except TransitionFault (Dict Str CommitNode) :=
  match commits.get? commitSha with
  | none => do
    raiseIf (maxCommits ≤ commits.size) (reject "Git graph commit limit exceeded")
    return commits.set commitSha ⟨commitSha, 1, p⟩
  | some node => do
    raiseIf (node.observationCount < 1) (reject "retained Git graph commit count is invalid")
    return commits.set commitSha ⟨commitSha, node.observationCount + 1, p⟩

def emptyTally {α : Type} : Tally α := ⟨fun _ => 0, fun _ => none, 0⟩

def Tally.record {α : Type} [DecidableEq α] (t : Tally α) (a : α) (p : Provenance) : Tally α where
  assertionCounts := Function.update t.assertionCounts a (t.assertionCounts a + 1)
  assertions := Function.update t.assertions a (some p)
  observationCount := t.observationCount + 1

def retainedRelation (relations : Dict Str RelationState) (ancestorSha descendantSha : Str) :
    Except TransitionFault (Tally AncestryRelation) :=
  match relations.get? (relationKey ancestorSha descendantSha) with
  | none => do
    raiseIf (maxRelations ≤ relations.size) (reject "Git graph relation limit exceeded")
    return emptyTally
  | some r => do
    raiseIf (r.ancestorSha ≠ ancestorSha ∨ r.descendantSha ≠ descendantSha)
      (reject "retained Git graph relation is invalid")
    raiseIf (r.tally.observationCount < 1) (reject "retained Git graph relation count is invalid")
    return r.tally

def applyRelation (relations : Dict Str RelationState) (d : GitObservationDetails) (p : Provenance) :
    Except TransitionFault (Dict Str RelationState) := do
  let ancestorSha ← demand d.ancestorSha .foreign
  let descendantSha ← demand d.descendantSha .foreign
  let relation ← demand d.relation .foreign
  let retained ← retainedRelation relations ancestorSha descendantSha
  let tally := retained.record relation p
  let confidence ← demand (confidenceOf tally) .foreign
  return relations.set (relationKey ancestorSha descendantSha)
    { ancestorSha := ancestorSha
      descendantSha := descendantSha
      tally := tally
      latestAssertion := relation
      effectiveRelation := effectiveCounts tally.assertionCounts
      relationConfidence := confidence
      conflicted := conflictedCounts tally.assertionCounts
      lastObservation := p }

def retainedObject (objects : Dict Str ObjectState) (objectType : ObjectType) (objectSha : Str) :
    Except TransitionFault (Tally ObjectAvailability) :=
  match objects.get? (objectKeyText objectType objectSha) with
  | none => do
    raiseIf (maxObjects ≤ objects.size) (reject "Git graph object limit exceeded")
    return emptyTally
  | some o => do
    raiseIf (o.objectSha ≠ objectSha ∨ o.objectType ≠ objectType)
      (reject "retained Git graph object state is invalid")
    raiseIf (o.tally.observationCount < 1) (reject "retained Git graph object count is invalid")
    return o.tally

def applyObjectAvailability (objects : Dict Str ObjectState) (missing : Dict Str MissingObject)
    (d : GitObservationDetails) (p : Provenance) :
    Except TransitionFault (Dict Str ObjectState × Dict Str MissingObject) := do
  let objectSha ← demand d.objectSha .foreign
  let objectType ← demand d.objectType .foreign
  let availability ← demand d.availability .foreign
  let retained ← retainedObject objects objectType objectSha
  let key := objectKeyText objectType objectSha
  let seen : MissingObject := ⟨objectSha, objectType, availability, d.unavailableReason, p⟩
  return (objects.set key ⟨seen, retained.record availability p⟩,
    if availability = .available then missing.erase key else missing.set key seen)

def retainedRef (refs : Dict Str RefState) (refName : Str) :
    Except TransitionFault (List Str × Nat) :=
  match refs.get? refName with
  | none => do
    raiseIf (maxRefsPerCheckout ≤ refs.size) (reject "Git graph ref limit exceeded")
    return ([], 0)
  | some r => do
    raiseIf (r.refName ≠ refName) (reject "retained Git graph ref state is invalid")
    raiseIf (r.observationCount < 1) (reject "retained Git graph ref count is invalid")
    return (r.observedCommitShas, r.observationCount)

def observedRef (refName commitSha : Str) (retained : List Str × Nat) (p : Provenance) : RefState :=
  let observed := sortedStrs (retained.1 ++ [commitSha]).dedup
  { refName := refName
    currentCommitSha := commitSha
    observedCommitShas := observed
    observationCount := retained.2 + 1
    moved := decide (1 < observed.length)
    movementClassification := movementOf (decide (1 < observed.length))
    lastObservation := p }

def applyRef (refs : Dict Str RefState) (refName commitSha : Str) (p : Provenance) :
    Except TransitionFault (Dict Str RefState) := do
  let retained ← retainedRef refs refName
  return refs.set refName (observedRef refName commitSha retained p)

def retainedCheckout (checkouts : Dict Str CheckoutState) (checkoutAlias : Str) :
    Except TransitionFault CheckoutState :=
  match checkouts.get? checkoutAlias with
  | none => do
    raiseIf (maxCheckouts ≤ checkouts.size) (reject "Git graph checkout limit exceeded")
    return { checkoutAlias := checkoutAlias }
  | some c => do
    raiseIf (c.checkoutAlias ≠ checkoutAlias) (reject "retained Git graph checkout state is invalid")
    return c

def observeHead (c : CheckoutState) (d : GitObservationDetails) (p : Provenance) :
    Except TransitionFault CheckoutState :=
  match d.refName with
  | none => .ok { c with commitSha := d.commitSha, refName := none, detached := d.detached }
  | some refName => do
    let commitSha ← demand d.commitSha .foreign
    let refs ← applyRef c.refs refName commitSha p
    return { c with
      commitSha := d.commitSha
      refName := some refName
      detached := d.detached
      refs := refs }

def observeCheckout (c : CheckoutState) (d : GitObservationDetails) (p : Provenance) :
    Except TransitionFault CheckoutState :=
  match d.observationKind with
  | .checkout => do
    let c ← observeHead c d p
    return { c with remoteSha256 := d.remoteSha256 }
  | .ref => observeHead c d p
  | .worktreeStatus => do
    let c ← observeHead c d p
    return { c with dirty := d.dirty, diffArtifactId := d.diffArtifactId }
  | .diff => .ok { c with
      commitSha := d.commitSha
      diffArtifactId := d.diffArtifactId
      diffBaseCommitSha := d.baseCommitSha }
  | .shallowState => .ok { c with shallow := d.shallow, boundaryCommitShas := d.boundaryCommitShas }
  | .commit | .ancestry | .objectAvailability => .ok c

def applyCheckout (checkouts : Dict Str CheckoutState) (r : GitObservationRecordRef) (p : Provenance) :
    Except TransitionFault (Dict Str CheckoutState) := do
  let retained ← retainedCheckout checkouts r.checkoutAlias
  let c ← observeCheckout retained r.details p
  return checkouts.set r.checkoutAlias { c with lastObservation := some p }

def applyObservation (repository : RepositoryState) (r : GitObservationRecordRef) (p : Provenance) :
    Except TransitionFault RepositoryState :=
  match r.details.observationKind with
  | .commit => .ok repository
  | .ancestry => do
    let relations ← applyRelation repository.relations r.details p
    return { repository with relations := relations }
  | .objectAvailability => do
    let (objects, missing) ←
      applyObjectAvailability repository.objects repository.missingObjects r.details p
    return { repository with objects := objects, missingObjects := missing }
  | .checkout | .ref | .worktreeStatus | .diff | .shallowState => do
    let checkouts ← applyCheckout repository.checkouts r p
    return { repository with checkouts := checkouts }

def updateRepository (repository : RepositoryState) (r : GitObservationRecordRef) (p : Provenance) :
    Except TransitionFault RepositoryState := do
  let commits ← accumulate (touchCommit p) repository.commits (commitShas r.details)
  let updated ← applyObservation { repository with commits := commits } r p
  return { updated with lastObservation := some p }

end Observing

section Reducing

def verifyStreamHead (head : Option StreamHead) (e : CanonicalEvent sha) (r : GitObservationRecordRef) :
    Except TransitionFault Unit :=
  match head with
  | none =>
    raiseIf (r.sequence ≠ 1) (reject "Git graph projection cannot start after stream version 1")
  | some h =>
    raiseIf (h.streamVersion + 1 ≠ r.sequence ∨ some h.eventSha256 ≠ e.previousStreamEventSha256 ∨
        e.globalPosition ≤ h.globalPosition ∨ h.scope ≠ headScope e.toEventEnvelope r ∨
        h.traceId ≠ r.traceId ∨ h.runId ≠ r.runId ∨ h.checkoutAlias ≠ r.checkoutAlias)
      (reject "Git observation does not extend the retained graph head")

def verifyTyped (event : ReducerEvent sha) : Except TransitionFault Unit :=
  match event.typedEvent with
  | none => .error (reject "typed Git observation is required")
  | some typed => do
    raiseIf (typed.targetVersion ≠ 1 ∨ typed.eventType ≠ event.sourceEvent.eventType)
      (reject "typed Git observation version is invalid")
    raiseIf (typed.payload.pyEq event.sourceEvent.payload = false)
      (reject "typed Git observation payload differs from its source event")

def parsedObservation (e : CanonicalEvent sha) : Except TransitionFault GitObservationRecordRef :=
  match parseGitObservation sha e.toEventEnvelope with
  | .ok r => .ok r
  | .error error =>
    .error (if error.code = lit "TBM_GIT_OBSERVATION_INVALID"
      then reject "Git observation cannot update the graph projection" else .foreign)

def retainedScope (s : GraphState) (e : CanonicalEvent sha) : Except TransitionFault Scope :=
  match s.scope with
  | none => .ok (scopeOf e.toEventEnvelope)
  | some scope => do
    raiseIf (scope ≠ scopeOf e.toEventEnvelope)
      (reject "Git observation scope differs from the projection scope")
    return scope

def transition (s : GraphState) (event : ReducerEvent sha) : Except TransitionFault GraphState := do
  verifyTyped event
  let e := event.sourceEvent
  let r ← parsedObservation e
  validatedStateCopy s
  raiseIf (e.globalPosition ≤ s.lastGlobalPosition)
    (reject "Git observations are not in strict global order")
  let scope ← retainedScope s e
  verifyStreamHead (s.heads.get? e.streamId) e r
  let repository ← updateRepository (s.repository.getD { repositoryId := r.repositoryId }) r
    (provenance e r)
  return {
    scope := some scope
    repository := some repository
    heads := s.heads.set e.streamId (headOf e r)
    lastGlobalPosition := e.globalPosition }

-- The state is kept as records; what is stored of it, and bounded, is its JSON form.
def advance (s : GraphState) (event : ReducerEvent sha) : Except ProjectionError GraphState := do
  let _ ← canonicalProjectionState s.toJson
  if event.sourceEvent.eventType ∈ gitObservationTypes then
    raiseIf (event.typedEvent.isSome = false) typedEventRequired
    let next ← wrapped "TBM_REDUCER_TRANSITION_FAILED" "reducer transition failed" (transition s event)
    let _ ← canonicalProjectionState next.toJson
    return next
  else return s

def foldGraph (events : List (ReducerEvent sha)) : Except ProjectionError GraphState :=
  accumulate advance initialGraph events

end Reducing

end GitGraph

end TraceBackedMemory
