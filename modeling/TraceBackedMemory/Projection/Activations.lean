import TraceBackedMemory.Projection.Compare
import TraceBackedMemory.Foundation.AtomicClients
import TraceBackedMemory.Ledger.Database

namespace TraceBackedMemory

open Text Raising OrderBy AtomicClient

namespace Projection

section Records

inductive ProjectionActivationOperation where
  | activate
  | rollback
  deriving DecidableEq

def ProjectionActivationOperation.text : ProjectionActivationOperation → Str
  | .activate => lit "activate"
  | .rollback => lit "rollback"

structure ActivationFields where
  projectionName : Str
  partitionSha256 : Str
  headVersion : Nat
  targetBuildId : Str
  previousBuildId : Option Str
  operation : ProjectionActivationOperation
  owner : Str
  createdAt : Str
  deriving DecidableEq

def optionalDigestField (value : Option Str) (name : Str) : Except ProjectionError Unit :=
  value.elim (.ok ()) (checkpointDigest · name)

def checkActivation (a : ActivationFields) : Except ProjectionError Unit := do
  checkpointIdentifier a.projectionName (lit "projection_name")
  checkpointDigest a.partitionSha256 (lit "partition_sha256")
  checkpointPosition a.headVersion (lit "head_version") false
  checkpointDigest a.targetBuildId (lit "target_build_id")
  optionalDigestField a.previousBuildId (lit "previous_build_id")
  checkpointIdentifier a.owner (lit "owner")
  raiseIf (timestampShaped a.createdAt = false) (invalidCheckpoint (invalidName (lit "created_at")))

structure ProjectionActivation extends ActivationFields where
  valid : checkActivation toActivationFields = .ok ()
  deriving DecidableEq

def ProjectionActivation.accept (a : ActivationFields) : Except ProjectionError ProjectionActivation :=
  if h : checkActivation a = .ok () then .ok ⟨a, h⟩
  else .error (invalidCheckpoint (lit "projection activation is invalid"))

def ActivationFields.toDict (a : ActivationFields) : Json :=
  .obj [(lit "protocol_version", .str (lit "tbm.projection-activation.v1")),
    (lit "projection_name", .str a.projectionName),
    (lit "partition_sha256", .str a.partitionSha256), (lit "head_version", jsonInt a.headVersion),
    (lit "target_build_id", .str a.targetBuildId),
    (lit "previous_build_id", jsonOptional a.previousBuildId),
    (lit "operation", .str a.operation.text), (lit "owner", .str a.owner),
    (lit "created_at", .str a.createdAt)]

def ActivationFields.sha256 (sha : Sha256) (a : ActivationFields) : Str :=
  sha.domain (lit "tbm.projection-activation.v1\x00") a.toDict

def currentVersion (history : List ProjectionActivation) : Nat :=
  history.getLast?.elim 0 (·.headVersion)

def currentBuild (history : List ProjectionActivation) : Option Str :=
  history.getLast?.map (·.targetBuildId)

def maxActivationsPerList : Nat := 10000

def headConflict : ProjectionError :=
  ⟨.checkpointConflict, lit "TBM_PROJECTION_HEAD_CONFLICT",
    lit "projection head changed before activation"⟩

def invalidActivation (message : String) : ProjectionError :=
  ⟨.checkpoint, lit "TBM_PROJECTION_ACTIVATION_INVALID", lit message⟩

def targetNotRetained : ProjectionError :=
  ⟨.checkpointNotFound, lit "TBM_PROJECTION_NOT_FOUND",
    lit "activation target checkpoint is not retained"⟩

def listLimitExceeded : ProjectionError :=
  ⟨.checkpoint, lit "TBM_PROJECTION_LIST_LIMIT_EXCEEDED",
    lit "projection activation list exceeds the bounded limit"⟩

def boundedHistory (history : List ProjectionActivation) :
    Except ProjectionError (List ProjectionActivation) := do
  raiseIf (maxActivationsPerList < history.length) listLimitExceeded
  return history

end Records

section Stores

-- The store protocol the runtime is written against, with what its tables hold.
structure ProjectionCheckpointStore where
  State : Type
  empty : State
  checkpoints : State → List ProjectionCheckpoint
  activations : State → Str → Str → List ProjectionActivation
  saveCheckpoint : ProjectionCheckpoint → State → Except ProjectionError State
  loadCheckpoint : Str → State → Except ProjectionError ProjectionCheckpoint
  appendActivation : ProjectionActivation → Nat → Option Str → State → Except ProjectionError State
  currentActivation : Str → Str → State → Except ProjectionError (Option ProjectionActivation)
  activationHistory : Str → Str → State → Except ProjectionError (List ProjectionActivation)

variable (sha : Sha256)

theorem saveCheckpoint_keyed {store store' : CheckpointStore} {c c' : ProjectionCheckpoint}
    (hkeyed : ∀ id d, store.checkpoints.get? id = some d → d.buildId sha = id)
    (h : saveCheckpoint sha c store = .ok (c', store')) :
    ∀ id d, store'.checkpoints.get? id = some d → d.buildId sha = id := by
  unfold saveCheckpoint at h
  split at h
  · simp only [bind_eq_ok, exists_unit, pure_eq_ok, Prod.mk.injEq] at h
    obtain ⟨_, _, _, _, rfl⟩ := h
    exact hkeyed
  · split at h
    · cases h
      exact hkeyed
    · cases h
      exact Dict.forall_get?_set rfl hkeyed

structure InMemoryProjections where
  checkpointStore : CheckpointStore
  activations : Dict (Str × Str) (List ProjectionActivation)
  keyed : ∀ id c, checkpointStore.checkpoints.get? id = some c → c.buildId sha = id

namespace InMemoryProjections

variable {sha}

def history (s : InMemoryProjections sha) (name partitionSha256 : Str) : List ProjectionActivation :=
  (s.activations.get? (name, partitionSha256)).getD []

def save (c : ProjectionCheckpoint) (s : InMemoryProjections sha) :
    Except ProjectionError (InMemoryProjections sha) :=
  match h : saveCheckpoint sha c s.checkpointStore with
  | .ok (_, store) => .ok ⟨store, s.activations, saveCheckpoint_keyed sha s.keyed h⟩
  | .error e => .error e

def append (a : ProjectionActivation) (expectedHeadVersion : Nat) (expectedCurrentBuildId : Option Str)
    (s : InMemoryProjections sha) : Except ProjectionError (InMemoryProjections sha) := do
  checkpointPosition expectedHeadVersion (lit "expected_head_version") true
  optionalDigestField expectedCurrentBuildId (lit "expected_current_build_id")
  raiseIf (s.checkpointStore.checkpoints.contains a.targetBuildId = false) targetNotRetained
  let history := s.history a.projectionName a.partitionSha256
  raiseIf (currentVersion history ≠ expectedHeadVersion ∨
    currentBuild history ≠ expectedCurrentBuildId) headConflict
  raiseIf (a.headVersion ≠ currentVersion history + 1 ∨ a.previousBuildId ≠ currentBuild history)
    (invalidActivation "activation does not advance the retained projection head")
  return { s with
    activations := s.activations.set (a.projectionName, a.partitionSha256) (history ++ [a]) }

def current (name partitionSha256 : Str) (s : InMemoryProjections sha) :
    Except ProjectionError (Option ProjectionActivation) := do
  checkpointIdentifier name (lit "projection_name")
  checkpointDigest partitionSha256 (lit "partition_sha256")
  return (s.history name partitionSha256).getLast?

def activationHistory (name partitionSha256 : Str) (s : InMemoryProjections sha) :
    Except ProjectionError (List ProjectionActivation) := do
  checkpointIdentifier name (lit "projection_name")
  checkpointDigest partitionSha256 (lit "partition_sha256")
  boundedHistory (s.history name partitionSha256)

end InMemoryProjections

def inMemoryStore : ProjectionCheckpointStore where
  State := InMemoryProjections sha
  empty := ⟨emptyCheckpointStore, Dict.empty, fun _ _ h => by cases h⟩
  checkpoints s := s.checkpointStore.checkpoints.values
  activations s := s.history
  saveCheckpoint := InMemoryProjections.save
  loadCheckpoint id s := loadCheckpoint id s.checkpointStore
  appendActivation := InMemoryProjections.append
  currentActivation := InMemoryProjections.current
  activationHistory := InMemoryProjections.activationHistory

-- The two projection tables of the SQLite ledger, each in insertion order.
structure SqliteProjections where
  checkpointRows : List ProjectionCheckpoint := []
  activationRows : List ProjectionActivation := []

def partitionMismatch (subject : String) : ProjectionError :=
  ⟨.checkpoint, lit "TBM_PROJECTION_PARTITION_MISMATCH",
    lit subject ++ lit " partition does not match ledger access"⟩

def duplicateBuild : ProjectionError :=
  ⟨.ledger, lit "TBM_EVENT_LEDGER_SQLITE_INTEGRITY",
    lit "projection build ID is retained more than once"⟩

def headInsertConflict : ProjectionError :=
  ⟨.checkpointConflict, lit "TBM_PROJECTION_HEAD_CONFLICT",
    lit "projection activation conflicts with the retained head"⟩

namespace SqliteProjections

variable (partition : Str)

def buildRows (s : SqliteProjections) (partitionSha256 buildId : Str) : List ProjectionCheckpoint :=
  s.checkpointRows.filter (fun c =>
    decide (c.partitionSha256 = partitionSha256 ∧ c.buildId sha = buildId))

def history (s : SqliteProjections) (name partitionSha256 : Str) : List ProjectionActivation :=
  orderBy (fun a : ProjectionActivation => a.headVersion) (s.activationRows.filter (fun a =>
    decide (a.projectionName = name ∧ a.partitionSha256 = partitionSha256)))

def retainOrInsert (c : ProjectionCheckpoint) (s : SqliteProjections) :
    Except ProjectionError SqliteProjections :=
  match s.checkpointRows.find? (fun d => decide (d.key = c.key)) with
  | some retained => do
    raiseIf (retained.buildId sha ≠ c.buildId sha) checkpointConflict
    return s
  | none => .ok { s with checkpointRows := s.checkpointRows ++ [c] }

def save (c : ProjectionCheckpoint) (s : SqliteProjections) :
    Except ProjectionError SqliteProjections := do
  raiseIf (c.partitionSha256 ≠ partition) (partitionMismatch "checkpoint")
  s.retainOrInsert sha c

def onlyRow (missing several : ProjectionError) (rows : List ProjectionCheckpoint) :
    Except ProjectionError ProjectionCheckpoint :=
  match rows with
  | [] => .error missing
  | [c] => .ok c
  | _ => .error several

def load (buildId : Str) (s : SqliteProjections) : Except ProjectionError ProjectionCheckpoint := do
  raiseIf (validDigest buildId = false) (invalidCheckpoint (lit "build_id is invalid"))
  onlyRow checkpointNotRetained duplicateBuild (s.buildRows sha partition buildId)

def append (a : ProjectionActivation) (expectedHeadVersion : Nat) (expectedCurrentBuildId : Option Str)
    (s : SqliteProjections) : Except ProjectionError SqliteProjections := do
  raiseIf (a.partitionSha256 ≠ partition) (partitionMismatch "activation")
  let target ← onlyRow targetNotRetained targetNotRetained
    (s.buildRows sha a.partitionSha256 a.targetBuildId)
  raiseIf (target.projectionName ≠ a.projectionName)
    (invalidActivation "activation target belongs to another projection")
  let history := s.history a.projectionName a.partitionSha256
  raiseIf (currentVersion history ≠ expectedHeadVersion ∨
    currentBuild history ≠ expectedCurrentBuildId ∨ a.headVersion ≠ currentVersion history + 1 ∨
    a.previousBuildId ≠ currentBuild history) headConflict
  raiseIf (a.sha256 sha ∈ s.activationRows.map (·.sha256 sha)) headInsertConflict
  return { s with activationRows := s.activationRows ++ [a] }

def activationHistory (name partitionSha256 : Str) (s : SqliteProjections) :
    Except ProjectionError (List ProjectionActivation) := do
  raiseIf (partitionSha256 ≠ partition) (partitionMismatch "activation")
  boundedHistory (s.history name partitionSha256)

def current (name partitionSha256 : Str) (s : SqliteProjections) :
    Except ProjectionError (Option ProjectionActivation) := do
  let history ← s.activationHistory partition name partitionSha256
  return history.getLast?

end SqliteProjections

def sqliteStore (access : LedgerAccessContext) : ProjectionCheckpointStore where
  State := SqliteProjections
  empty := {}
  checkpoints s := s.checkpointRows
  activations s := s.history
  saveCheckpoint := SqliteProjections.save sha (access.partition.sha256 sha)
  loadCheckpoint := SqliteProjections.load sha (access.partition.sha256 sha)
  appendActivation := SqliteProjections.append sha (access.partition.sha256 sha)
  currentActivation := SqliteProjections.current (access.partition.sha256 sha)
  activationHistory := SqliteProjections.activationHistory (access.partition.sha256 sha)

inductive ProjectionBackend where
  | inMemory
  | sqlite (access : LedgerAccessContext)

def ProjectionBackend.store : ProjectionBackend → ProjectionCheckpointStore
  | .inMemory => inMemoryStore sha
  | .sqlite access => sqliteStore sha access

end Stores

section Runtime

def runtimeError (code message : String) : ProjectionError := ⟨.runtime, lit code, lit message⟩

def invalidRuntimeValue (name : Str) : ProjectionError :=
  ⟨.runtime, lit "TBM_PROJECTION_VALUE_INVALID", invalidName name⟩

def runtimeIdentifier (value name : Str) : Except ProjectionError Unit :=
  raiseIf (value = [] ∨ 128 < value.length ∨ value.all identifierRest = false)
    (invalidRuntimeValue name)

def runtimePosition (value : Nat) (name : Str) : Except ProjectionError Unit :=
  raiseIf (maxInteger < value) (invalidRuntimeValue name)

-- The clock text stands for datetime.now in the runtime's own format.
def timestampOrNow (value : Option Str) (now : Str) : Except ProjectionError Str :=
  match value with
  | none => .ok now
  | some text => do
    raiseIf (timestampShaped text = false ∨ instant? text = none)
      (runtimeError "TBM_PROJECTION_TIMESTAMP_INVALID" "projection timestamp is invalid")
    return text

structure ActivateCall where
  shadowBuildId : Str
  owner : Str
  approved : Bool
  expectedHeadVersion : Nat
  expectedCurrentBuildId : Option Str
  comparison : Option ProjectionComparison
  createdAt : Option Str
  now : Str
  deriving DecidableEq

structure RollbackCall where
  projectionName : Str
  partitionSha256 : Str
  owner : Str
  expectedHeadVersion : Nat
  expectedCurrentBuildId : Str
  targetBuildId : Option Str
  createdAt : Option Str
  now : Str
  deriving DecidableEq

def ActivateCall.check (c : ActivateCall) : Except ProjectionError Unit := do
  raiseIf (c.approved = false)
    (runtimeError "TBM_PROJECTION_APPROVAL_REQUIRED"
      "projection activation requires explicit approval")
  runtimeIdentifier c.owner (lit "owner")
  runtimePosition c.expectedHeadVersion (lit "expected_head_version")
  c.expectedCurrentBuildId.elim (.ok ()) (runtimeDigest · (lit "expected_current_build_id"))

def ActivateCall.verifyComparison (c : ActivateCall) : Except ProjectionError Unit :=
  match c.expectedCurrentBuildId with
  | none => .ok ()
  | some current => do
    let comparison ← demand c.comparison
      (runtimeError "TBM_PROJECTION_COMPARISON_REQUIRED"
        "projection replacement requires a bound comparison")
    raiseIf (comparison.activeBuildId ≠ current ∨ comparison.shadowBuildId ≠ c.shadowBuildId)
      (runtimeError "TBM_PROJECTION_COMPARISON_MISMATCH"
        "projection comparison is not bound to the requested head switch")

def ActivateCall.activation (sha : Sha256) (c : ActivateCall) (shadow : ProjectionCheckpoint) :
    Except ProjectionError ProjectionActivation := do
  c.verifyComparison
  let createdAt ← timestampOrNow c.createdAt c.now
  ProjectionActivation.accept
    { projectionName := shadow.projectionName
      partitionSha256 := shadow.partitionSha256
      headVersion := c.expectedHeadVersion + 1
      targetBuildId := shadow.buildId sha
      previousBuildId := c.expectedCurrentBuildId
      operation := .activate
      owner := c.owner
      createdAt := createdAt }

def RollbackCall.check (c : RollbackCall) : Except ProjectionError Unit := do
  runtimeIdentifier c.projectionName (lit "projection_name")
  runtimeDigest c.partitionSha256 (lit "partition_sha256")
  runtimeIdentifier c.owner (lit "owner")
  runtimePosition c.expectedHeadVersion (lit "expected_head_version")
  runtimeDigest c.expectedCurrentBuildId (lit "expected_current_build_id")

def RollbackCall.unavailable (message : String) : ProjectionError :=
  runtimeError "TBM_PROJECTION_ROLLBACK_UNAVAILABLE" message

def RollbackCall.target (c : RollbackCall) (current : Option ProjectionActivation) :
    Except ProjectionError Str := do
  let head ← demand (current.filter (fun a => decide (a.headVersion = c.expectedHeadVersion ∧
      a.targetBuildId = c.expectedCurrentBuildId)))
    (runtimeError "TBM_PROJECTION_HEAD_CONFLICT" "projection head changed before rollback")
  demand (c.targetBuildId.or head.previousBuildId)
    (RollbackCall.unavailable "projection head has no retained predecessor")

def RollbackCall.verifyScope (c : RollbackCall) (checkpoint : ProjectionCheckpoint) :
    Except ProjectionError Unit :=
  raiseIf (checkpoint.projectionName ≠ c.projectionName ∨
      checkpoint.partitionSha256 ≠ c.partitionSha256)
    (runtimeError "TBM_PROJECTION_ROLLBACK_SCOPE_MISMATCH"
      "rollback target belongs to another projection or partition")

def RollbackCall.verifyTarget (target : Str) (history : List ProjectionActivation) :
    Except ProjectionError Unit :=
  raiseIf (target ∉ history.map (·.targetBuildId))
    (RollbackCall.unavailable "rollback target was never an active projection head")

def RollbackCall.activation (c : RollbackCall) (target : Str) :
    Except ProjectionError ProjectionActivation := do
  let createdAt ← timestampOrNow c.createdAt c.now
  ProjectionActivation.accept
    { projectionName := c.projectionName
      partitionSha256 := c.partitionSha256
      headVersion := c.expectedHeadVersion + 1
      targetBuildId := target
      previousBuildId := some c.expectedCurrentBuildId
      operation := .rollback
      owner := c.owner
      createdAt := createdAt }

inductive ProjectionCall where
  | save (checkpoint : ProjectionCheckpoint)
  | activate (call : ActivateCall)
  | rollback (call : RollbackCall)

variable (sha : Sha256) (store : ProjectionCheckpointStore)

def activateClient (c : ActivateCall) : AtomicClient store.State :=
  requiring c.check fun _ =>
  reading (store.loadCheckpoint c.shadowBuildId) fun shadow =>
  requiring (c.activation sha shadow) fun a =>
  writing (store.appendActivation a c.expectedHeadVersion c.expectedCurrentBuildId)

def appendRollback (c : RollbackCall) (target : Str) : AtomicClient store.State :=
  requiring (c.activation target) fun a =>
  writing (store.appendActivation a c.expectedHeadVersion (some c.expectedCurrentBuildId))

def verifyThenAppend (c : RollbackCall) (target : Str) : AtomicClient store.State :=
  match c.targetBuildId with
  | none => appendRollback store c target
  | some _ =>
    reading (store.activationHistory c.projectionName c.partitionSha256) fun history =>
    requiring (RollbackCall.verifyTarget target history) fun _ => appendRollback store c target

def rollbackClient (c : RollbackCall) : AtomicClient store.State :=
  requiring c.check fun _ =>
  reading (store.currentActivation c.projectionName c.partitionSha256) fun current =>
  requiring (c.target current) fun target =>
  reading (store.loadCheckpoint target) fun checkpoint =>
  requiring (c.verifyScope checkpoint) fun _ => verifyThenAppend store c target

def ProjectionCall.client : ProjectionCall → AtomicClient store.State
  | .save checkpoint => writing (store.saveCheckpoint checkpoint)
  | .activate call => activateClient sha store call
  | .rollback call => rollbackClient store call

def runProjections (calls : List ProjectionCall) (schedule : List Nat) : store.State :=
  (run (calls.map (ProjectionCall.client sha store)) store.empty schedule).2

end Runtime

end Projection

end TraceBackedMemory
