import TraceBackedMemory.Projection.State
import TraceBackedMemory.Ledger.Port
import TraceBackedMemory.Foundation.Dict

namespace TraceBackedMemory

open Text Raising

namespace Projection

section Descriptors

def maxInputEventTypes : Nat := 256

def maxInteger : Nat := 2 ^ 63 - 1

def invalidDescriptor (message : Str) : ProjectionError :=
  ⟨.reducer, lit "TBM_REDUCER_DESCRIPTOR_INVALID", message⟩

def invalidCheckpoint (message : Str) : ProjectionError :=
  ⟨.checkpoint, lit "TBM_PROJECTION_CHECKPOINT_INVALID", message⟩

def invalidName (name : Str) : Str := name ++ lit " is invalid"

def eventTypeStart (c : CodePoint) : Bool :=
  decide ((97 ≤ c.val ∧ c.val ≤ 122) ∨ (48 ≤ c.val ∧ c.val ≤ 57))

def eventTypeSegment : Str → Bool
  | [] => false
  | c :: rest => eventTypeStart c && rest.all (fun d => eventTypeStart d || decide (d = cp '_'))

def isEventType (value : Str) : Bool :=
  match value.splitOn (cp '.') with
  | root :: first :: rest =>
    decide (root = lit "tbm") && eventTypeSegment first && decide (rest ≠ []) &&
      rest.all eventTypeSegment
  | _ => false

structure DescriptorFields where
  reducerId : Str
  reducerVersion : Nat
  inputEventTypes : List Str
  outputProjection : Str
  outputSchemaVersion : Nat
  codeSha256 : Str
  configurationSha256 : Str
  deterministic : Bool
  targetEventVersions : List (Str × Nat)
  envelopeOnly : Bool
  deriving DecidableEq

def reducerIdentifier (value name : Str) : Except ProjectionError Unit :=
  raiseIf (isBoundedIdentifier value = false) (invalidDescriptor (invalidName name))

def reducerDigest (value name : Str) : Except ProjectionError Unit :=
  raiseIf (validDigest value = false) (invalidDescriptor (invalidName name))

def positiveVersion (value : Nat) (name : Str) : Except ProjectionError Unit :=
  raiseIf (¬(1 ≤ value ∧ value ≤ maxInteger)) (invalidDescriptor (invalidName name))

def checkInputEventTypes (d : DescriptorFields) : Except ProjectionError Unit := do
  raiseIf (¬(1 ≤ d.inputEventTypes.length ∧ d.inputEventTypes.length ≤ maxInputEventTypes))
    (invalidDescriptor (lit "input_event_types count is outside the supported range"))
  if d.envelopeOnly = true then
    raiseIf (d.inputEventTypes ≠ [lit "*"])
      (invalidDescriptor (lit "envelope-only reducers must declare the wildcard input"))
  else do
    raiseIf (d.inputEventTypes.any (fun t => !isEventType t) = true)
      (invalidDescriptor (lit "input_event_types contain an invalid canonical event type"))
    raiseIf (¬d.inputEventTypes.Pairwise (· < ·))
      (invalidDescriptor (lit "input_event_types must be sorted and unique"))

def checkTargets (d : DescriptorFields) : Except ProjectionError Unit := do
  checkEach (fun target => do
    raiseIf (isEventType target.1 = false)
      (invalidDescriptor (lit "target_event_versions contains an invalid event type"))
    positiveVersion target.2 (lit "target_event_version")) d.targetEventVersions
  raiseIf (d.envelopeOnly = true ∧ d.targetEventVersions ≠ [])
    (invalidDescriptor (lit "envelope-only reducers cannot request typed event versions"))
  raiseIf (d.targetEventVersions.any (fun t => decide (t.1 ∉ d.inputEventTypes)) = true)
    (invalidDescriptor (lit "target event version is not declared as an input"))

def checkDescriptor (d : DescriptorFields) : Except ProjectionError Unit := do
  reducerIdentifier d.reducerId (lit "reducer_id")
  positiveVersion d.reducerVersion (lit "reducer_version")
  reducerIdentifier d.outputProjection (lit "output_projection")
  positiveVersion d.outputSchemaVersion (lit "output_schema_version")
  reducerDigest d.codeSha256 (lit "code_sha256")
  reducerDigest d.configurationSha256 (lit "configuration_sha256")
  raiseIf (d.deterministic = false)
    (invalidDescriptor (lit "reducer descriptor must declare deterministic true"))
  checkInputEventTypes d
  checkTargets d

structure ReducerDescriptor extends DescriptorFields where
  valid : checkDescriptor toDescriptorFields = .ok ()
  deriving DecidableEq

namespace ReducerDescriptor

def accepts (d : ReducerDescriptor) (eventType : Str) : Bool :=
  d.envelopeOnly || decide (eventType ∈ d.inputEventTypes)

def toDict (d : ReducerDescriptor) : Json :=
  .obj [(lit "protocol_version", .str (lit "tbm.reducer.v1")),
    (lit "reducer_id", .str d.reducerId),
    (lit "reducer_version", jsonInt d.reducerVersion),
    (lit "input_event_types", .arr (d.inputEventTypes.map .str)),
    (lit "output_projection", .str d.outputProjection),
    (lit "output_schema_version", jsonInt d.outputSchemaVersion),
    (lit "code_sha256", .str d.codeSha256),
    (lit "configuration_sha256", .str d.configurationSha256),
    (lit "deterministic", .bool d.deterministic),
    (lit "target_event_versions", .obj (d.targetEventVersions.map (fun t => (t.1, jsonInt t.2)))),
    (lit "envelope_only", .bool d.envelopeOnly)]

def sha256 (sha : Sha256) (d : ReducerDescriptor) : Str :=
  sha.domain (lit "tbm.reducer-descriptor.v1\x00") d.toDict

end ReducerDescriptor

def projectionStateSha256 (sha : Sha256) (d : ReducerDescriptor) (state : Json) : Str :=
  sha.domain (lit "tbm.projection-state.v1\x00")
    (.obj [(lit "output_projection", .str d.outputProjection),
      (lit "output_schema_version", jsonInt d.outputSchemaVersion), (lit "state", state)])

end Descriptors

section Checkpoints

structure CheckpointFields where
  reducerDescriptor : ReducerDescriptor
  partitionSha256 : Str
  globalPosition : Nat
  eventHighWatermark : Nat
  reducerRegistrySha256 : Str
  eventRegistrySha256 : Option Str
  createdAt : Str
  owner : Str
  rebuildGeneration : Nat
  deriving DecidableEq

def checkpointDigest (value name : Str) : Except ProjectionError Unit :=
  raiseIf (validDigest value = false) (invalidCheckpoint (invalidName name))

def checkpointPosition (value : Nat) (name : Str) (allowZero : Bool) : Except ProjectionError Unit :=
  raiseIf (¬((if allowZero then 0 else 1) ≤ value ∧ value ≤ maxInteger))
    (invalidCheckpoint (invalidName name))

def checkpointIdentifier (value name : Str) : Except ProjectionError Unit :=
  raiseIf (isBoundedIdentifier value = false) (invalidCheckpoint (invalidName name))

def isNumeralText (s : Str) : Bool := s.all isNumeral

def timestampShaped (s : Str) : Bool :=
  decide (s.length = 27) && isNumeralText (s.take 4) && decide (s[4]? = some (cp '-')) &&
    isNumeralText ((s.drop 5).take 2) && decide (s[7]? = some (cp '-')) &&
    isNumeralText ((s.drop 8).take 2) && decide (s[10]? = some (cp 'T')) &&
    isNumeralText ((s.drop 11).take 2) && decide (s[13]? = some (cp ':')) &&
    isNumeralText ((s.drop 14).take 2) && decide (s[16]? = some (cp ':')) &&
    isNumeralText ((s.drop 17).take 2) && decide (s[19]? = some (cp '.')) &&
    isNumeralText ((s.drop 20).take 6) && decide (s[26]? = some (cp 'Z'))

def checkCheckpoint (c : CheckpointFields) : Except ProjectionError Unit := do
  checkpointDigest c.partitionSha256 (lit "partition_sha256")
  checkpointPosition c.globalPosition (lit "global_position") true
  checkpointPosition c.eventHighWatermark (lit "event_high_watermark") true
  raiseIf (c.eventHighWatermark < c.globalPosition)
    (invalidCheckpoint (lit "global_position exceeds event_high_watermark"))
  checkpointDigest c.reducerRegistrySha256 (lit "reducer_registry_sha256")
  c.eventRegistrySha256.elim (.ok ()) (checkpointDigest · (lit "event_registry_sha256"))
  raiseIf (timestampShaped c.createdAt = false) (invalidCheckpoint (invalidName (lit "created_at")))
  checkpointIdentifier c.owner (lit "owner")
  raiseIf (¬(1 ≤ c.rebuildGeneration ∧ c.rebuildGeneration ≤ maxInteger))
    (invalidCheckpoint (invalidName (lit "rebuild_generation")))

structure ProjectionCheckpoint extends CheckpointFields where
  state : ProjectionState
  valid : checkCheckpoint toCheckpointFields = .ok ()

namespace ProjectionCheckpoint

def stateSha256 (sha : Sha256) (c : ProjectionCheckpoint) : Str :=
  projectionStateSha256 sha c.reducerDescriptor c.state.value

def semantic (sha : Sha256) (c : ProjectionCheckpoint) : Json :=
  .obj [(lit "protocol_version", .str (lit "tbm.projection-checkpoint.v1")),
    (lit "reducer_protocol_version", .str (lit "tbm.reducer.v1")),
    (lit "reducer_descriptor_sha256", .str (c.reducerDescriptor.sha256 sha)),
    (lit "partition_sha256", .str c.partitionSha256),
    (lit "global_position", jsonInt c.globalPosition),
    (lit "state_sha256", .str (c.stateSha256 sha)),
    (lit "reducer_registry_sha256", .str c.reducerRegistrySha256),
    (lit "event_registry_sha256", jsonOptional c.eventRegistrySha256)]

def buildId (sha : Sha256) (c : ProjectionCheckpoint) : Str :=
  sha.domain (lit "tbm.projection-build.v1\x00") (c.semantic sha)

def projectionName (c : ProjectionCheckpoint) : Str := c.reducerDescriptor.outputProjection

def reducerVersion (c : ProjectionCheckpoint) : Nat := c.reducerDescriptor.reducerVersion

end ProjectionCheckpoint

end Checkpoints

section Stores

structure CheckpointKey where
  projectionName : Str
  reducerVersion : Nat
  partitionSha256 : Str
  globalPosition : Nat
  deriving DecidableEq

def ProjectionCheckpoint.key (c : ProjectionCheckpoint) : CheckpointKey where
  projectionName := c.projectionName
  reducerVersion := c.reducerVersion
  partitionSha256 := c.partitionSha256
  globalPosition := c.globalPosition

structure CheckpointStore where
  checkpoints : Dict Str ProjectionCheckpoint
  checkpointKeys : Dict CheckpointKey Str

def emptyCheckpointStore : CheckpointStore := ⟨Dict.empty, Dict.empty⟩

def checkpointConflict : ProjectionError :=
  ⟨.checkpointConflict, lit "TBM_PROJECTION_CHECKPOINT_CONFLICT",
    lit "checkpoint position retained a different projection digest"⟩

def checkpointNotRetained : ProjectionError :=
  ⟨.checkpointNotFound, lit "TBM_PROJECTION_NOT_FOUND",
    lit "projection checkpoint is not retained"⟩

def saveCheckpoint (sha : Sha256) (c : ProjectionCheckpoint) (store : CheckpointStore) :
    Except ProjectionError (ProjectionCheckpoint × CheckpointStore) :=
  match store.checkpointKeys.get? c.key with
  | some retainedBuild => do
    let retained ← demand (store.checkpoints.get? retainedBuild) checkpointNotRetained
    raiseIf (retained.buildId sha ≠ c.buildId sha) checkpointConflict
    return (retained, store)
  | none =>
    match store.checkpoints.get? (c.buildId sha) with
    | some retained => .ok (retained, store)
    | none => .ok (c, ⟨store.checkpoints.set (c.buildId sha) c,
        store.checkpointKeys.set c.key (c.buildId sha)⟩)

def loadCheckpoint (buildId : Str) (store : CheckpointStore) :
    Except ProjectionError ProjectionCheckpoint := do
  checkpointDigest buildId (lit "build_id")
  demand (store.checkpoints.get? buildId) checkpointNotRetained

-- Python's max keeps the first of several maximal elements.
def latestOf : List ProjectionCheckpoint → Option ProjectionCheckpoint
  | [] => none
  | c :: l => some (l.foldl (fun best d => if best.globalPosition < d.globalPosition then d else best) c)

def loadLatestCheckpoint (projectionName : Str) (reducerVersion : Nat) (partitionSha256 : Str)
    (store : CheckpointStore) : Except ProjectionError (Option ProjectionCheckpoint) := do
  checkpointIdentifier projectionName (lit "projection_name")
  checkpointPosition reducerVersion (lit "reducer_version") false
  checkpointDigest partitionSha256 (lit "partition_sha256")
  return latestOf (store.checkpoints.values.filter (fun c =>
    decide (c.projectionName = projectionName ∧ c.reducerVersion = reducerVersion ∧
      c.partitionSha256 = partitionSha256)))

end Stores

end Projection

end TraceBackedMemory
