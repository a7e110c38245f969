import TraceBackedMemory.Projection.Checkpoint
import TraceBackedMemory.Foundation.CappedWalk

namespace TraceBackedMemory

open Text Raising OrderBy

namespace Projection

section Differences

def maxDifferences : Nat := 256

def maxPath : Nat := 1024

def invalidComparison (message : Str) : ProjectionError :=
  ⟨.runtime, lit "TBM_PROJECTION_COMPARISON_INVALID", message⟩

def runtimeDigest (value name : Str) : Except ProjectionError Unit :=
  raiseIf (validDigest value = false)
    ⟨.runtime, lit "TBM_PROJECTION_VALUE_INVALID", invalidName name⟩

inductive ProjectionDifferenceKind where
  | added
  | changed
  | removed
  | typeChanged
  deriving DecidableEq

structure ProjectionDifference where
  path : Str
  kind : ProjectionDifferenceKind
  activeValueSha256 : Option Str
  shadowValueSha256 : Option Str
  deriving DecidableEq

def ProjectionDifference.check (d : ProjectionDifference) : Except ProjectionError Unit := do
  raiseIf (d.path = [] ∨ maxPath < d.path.length)
    (invalidComparison (lit "projection difference path is invalid"))
  d.activeValueSha256.elim (.ok ()) (runtimeDigest · (lit "active_value_sha256"))
  d.shadowValueSha256.elim (.ok ()) (runtimeDigest · (lit "shadow_value_sha256"))

def valueSha256 (sha : Sha256) (value : Json) : Str :=
  sha.domain (lit "tbm.projection-difference-value.v1\x00") value

abbrev Comparator := Json → Str → List ProjectionDifference →
  Except ProjectionError (Bool × List ProjectionDifference)

structure ActiveField where
  value : Json
  compare : Comparator

def activeField? (key : Str) : List (Str × ActiveField) → Option ActiveField
  | [] => none
  | (k, field) :: fields => if k = key then some field else activeField? key fields

def childPath (path key : Str) : Str := path ++ lit "." ++ key

def addedAt (sha : Sha256) (path : Str) (shadow : Json) : ProjectionDifference :=
  ⟨path, .added, none, some (valueSha256 sha shadow)⟩

def removedAt (sha : Sha256) (path : Str) (active : Json) : ProjectionDifference :=
  ⟨path, .removed, some (valueSha256 sha active), none⟩

def typeChangedAt (sha : Sha256) (path : Str) (active shadow : Json) : ProjectionDifference :=
  ⟨path, .typeChanged, some (valueSha256 sha active), some (valueSha256 sha shadow)⟩

def changedAt (sha : Sha256) (path : Str) (active shadow : Json) : ProjectionDifference :=
  ⟨path, .changed, some (valueSha256 sha active), some (valueSha256 sha shadow)⟩

def sortedKeys (active shadow : List Str) : List Str := orderBy id (active ++ shadow).dedup

variable (sha : Sha256)

def compareKeys (active : List (Str × ActiveField)) (shadow : List (Str × Json)) (path : Str) :
    List Str → List ProjectionDifference →
      Except ProjectionError (Bool × List ProjectionDifference)
  | [], sink => .ok (false, sink)
  | key :: keys, sink =>
    if maxDifferences ≤ sink.length then .ok (true, sink)
    else
      match activeField? key active, Json.field? key shadow with
      | none, none => compareKeys active shadow path keys sink
      | none, some value => do
        (addedAt sha (childPath path key) value).check
        compareKeys active shadow path keys (sink ++ [addedAt sha (childPath path key) value])
      | some field, none => do
        (removedAt sha (childPath path key) field.value).check
        compareKeys active shadow path keys
          (sink ++ [removedAt sha (childPath path key) field.value])
      | some field, some value => do
        let compared ← field.compare value (childPath path key) sink
        if compared.1 = true then return compared
        else compareKeys active shadow path keys compared.2

def compareValues (fields : List (Str × ActiveField)) (active shadow : Json) (path : Str)
    (sink : List ProjectionDifference) :
    Except ProjectionError (Bool × List ProjectionDifference) :=
  if maxDifferences ≤ sink.length then .ok (true, sink)
  else if active.pyType ≠ shadow.pyType then do
    (typeChangedAt sha path active shadow).check
    return (false, sink ++ [typeChangedAt sha path active shadow])
  else
    match active, shadow with
    | .obj _, .obj shadowFields =>
      compareKeys sha fields shadowFields path
        (sortedKeys (fields.map Prod.fst) (shadowFields.map Prod.fst)) sink
    | active, shadow =>
      if active.pyEq shadow = true then .ok (false, sink)
      else do
        (changedAt sha path active shadow).check
        return (false, sink ++ [changedAt sha path active shadow])

mutual

def collectDifferences : Json → Comparator
  | .obj fields => compareValues sha (activeFields fields) (.obj fields)
  | .null => compareValues sha [] .null
  | .bool b => compareValues sha [] (.bool b)
  | .num n => compareValues sha [] (.num n)
  | .str s => compareValues sha [] (.str s)
  | .arr items => compareValues sha [] (.arr items)

def activeFields : List (Str × Json) → List (Str × ActiveField)
  | [] => []
  | (key, value) :: fields => (key, ⟨value, collectDifferences value⟩) :: activeFields fields

end

end Differences

section Comparison

structure ProjectionComparison where
  activeBuildId : Str
  shadowBuildId : Str
  activeStateSha256 : Str
  shadowStateSha256 : Str
  activeGlobalPosition : Nat
  shadowGlobalPosition : Nat
  equivalent : Bool
  differences : List ProjectionDifference
  truncated : Bool
  deriving DecidableEq

def ProjectionComparison.check (c : ProjectionComparison) : Except ProjectionError Unit := do
  runtimeDigest c.activeBuildId (lit "active_build_id")
  runtimeDigest c.shadowBuildId (lit "shadow_build_id")
  runtimeDigest c.activeStateSha256 (lit "active_state_sha256")
  runtimeDigest c.shadowStateSha256 (lit "shadow_state_sha256")
  raiseIf (maxDifferences < c.differences.length)
    (invalidComparison (lit "projection comparison exceeds the difference limit"))
  raiseIf (c.equivalent ≠ decide (c.activeStateSha256 = c.shadowStateSha256 ∧
      c.activeGlobalPosition = c.shadowGlobalPosition))
    (invalidComparison (lit "equivalent flag does not match compared projection digests"))

def scopeMismatch : ProjectionError :=
  ⟨.runtime, lit "TBM_PROJECTION_COMPARISON_SCOPE_MISMATCH",
    lit "projection comparison targets different projections or partitions"⟩

def comparison (sha : Sha256) (active shadow : ProjectionCheckpoint) (truncated : Bool)
    (differences : List ProjectionDifference) : ProjectionComparison where
  activeBuildId := active.buildId sha
  shadowBuildId := shadow.buildId sha
  activeStateSha256 := active.stateSha256 sha
  shadowStateSha256 := shadow.stateSha256 sha
  activeGlobalPosition := active.globalPosition
  shadowGlobalPosition := shadow.globalPosition
  equivalent := decide (active.stateSha256 sha = shadow.stateSha256 sha ∧
    active.globalPosition = shadow.globalPosition)
  differences := differences
  truncated := truncated

def compare (sha : Sha256) (activeBuildId shadowBuildId : Str) (store : CheckpointStore) :
    Except ProjectionError ProjectionComparison := do
  let active ← loadCheckpoint activeBuildId store
  let shadow ← loadCheckpoint shadowBuildId store
  raiseIf (active.projectionName ≠ shadow.projectionName ∨
    active.partitionSha256 ≠ shadow.partitionSha256) scopeMismatch
  let activeState ← canonicalProjectionState active.state.value
  let shadowState ← canonicalProjectionState shadow.state.value
  let compared ← collectDifferences sha activeState shadowState (lit "state") []
  (comparison sha active shadow compared.1 compared.2).check
  return comparison sha active shadow compared.1 compared.2

end Comparison

end Projection

end TraceBackedMemory
