import TraceBackedMemory.Ledger.Port
import TraceBackedMemory.Foundation.Dict
import TraceBackedMemory.Foundation.ChainedLog

namespace TraceBackedMemory

open Text Raising

structure LedgerCodec (sha : Sha256) where
  dumps : CanonicalEvent sha → Str
  loads : Str → Except LedgerError (CanonicalEvent sha)
  artifactDescriptor : EventArtifactRef → Str
  jsonValid : Str → Bool

variable {sha : Sha256}

section Tables

structure EventRow where
  eventId : Str
  eventSha256 : Str
  partitionSha256 : Str
  partition : LedgerTenantPartition
  streamId : Str
  streamVersion : Nat
  globalPosition : Nat
  previousStreamEventSha256 : Option Str
  classification : EventClassification
  artifactRefCount : Nat
  canonicalEvent : Str
  deriving DecidableEq

structure ArtifactRow where
  eventId : Str
  ordinal : Nat
  artifactId : Str
  contentSha256 : Str
  mediaType : Str
  sizeBytes : Nat
  classification : EventClassification
  retentionPolicyId : Str
  encryptionKeyId : Option Str
  availability : EventArtifactAvailability
  descriptor : Str
  deriving DecidableEq

structure StreamHead where
  partition : LedgerTenantPartition
  currentStreamVersion : Nat
  currentEventId : Option Str
  currentEventSha256 : Option Str
  deriving DecidableEq

structure IdempotencyRow where
  commandSha256 : Str
  requestSha256 : Str
  streamId : Str
  previousStreamVersion : Nat
  currentStreamVersion : Nat
  firstGlobalPosition : Nat
  lastGlobalPosition : Nat
  eventSha256s : List Str
  receiptSha256 : Str
  deriving DecidableEq

structure LedgerDb where
  events : List EventRow := []
  artifacts : List ArtifactRow := []
  streamHeads : Dict (Str × Str) StreamHead := Dict.empty
  currentGlobalPosition : Nat := 0
  globalEventId : Option Str := none
  globalEventSha256 : Option Str := none
  idempotency : Dict (Str × Str) IdempotencyRow := Dict.empty

abbrev LedgerOp := Program LedgerError LedgerDb

def rowShape : LogShape EventRow (Str × Str) Str where
  key r := (r.partitionSha256, r.streamId)
  version r := r.streamVersion
  position r := r.globalPosition
  digest r := r.eventSha256
  parent r := r.previousStreamEventSha256

end Tables

section Errors

def databaseError (message : Str) : LedgerError := ⟨.database, [], message⟩

def integrityError (message : Str) : LedgerError :=
  ⟨.integrity, lit "TBM_EVENT_LEDGER_SQLITE_INTEGRITY", message⟩

def persistenceError (message : Str) : LedgerError :=
  ⟨.persistence, lit "TBM_EVENT_LEDGER_SQLITE_PERSISTENCE", message⟩

def encodedLength (text : Str) : Except LedgerError Nat :=
  demand (encodedBytes text) ⟨.valueError, [], lit "surrogates not allowed"⟩

end Errors

section Rows

def eventJsonMaxBytes : Nat := 1048576

def eventRow (codec : LedgerCodec sha) (e : CanonicalEvent sha) (partitionSha256 : Str) :
    Except LedgerError EventRow := do
  let bytes ← encodedLength (codec.dumps e)
  raiseIf (eventJsonMaxBytes < bytes)
    (invalidRequest (lit "canonical event exceeds the storage byte limit"))
  return ⟨e.eventId, e.eventSha256, partitionSha256, e.partition, e.streamId, e.streamVersion,
    e.globalPosition, e.previousStreamEventSha256, e.classification, e.artifactRefs.length,
    codec.dumps e⟩

def artifactRow (codec : LedgerCodec sha) (eventId : Str) (ordinal : Nat) (a : EventArtifactRef) :
    ArtifactRow :=
  ⟨eventId, ordinal, a.artifactId, a.contentSha256, a.mediaType, a.sizeBytes, a.classification,
    a.retentionPolicyId, a.encryptionKeyId, a.availability, codec.artifactDescriptor a⟩

def artifactRows (codec : LedgerCodec sha) (e : CanonicalEvent sha) : List ArtifactRow :=
  e.artifactRefs.zipIdx.map (fun p => artifactRow codec e.eventId p.2 p.1)

def LedgerDb.artifactsOf (db : LedgerDb) (eventId : Str) : List ArtifactRow :=
  (db.artifacts.filter (fun a => decide (a.eventId = eventId))).mergeSort
    (fun a b => decide (a.ordinal ≤ b.ordinal))

def LedgerDb.eventFromRow (codec : LedgerCodec sha) (db : LedgerDb) (row : EventRow) :
    Except LedgerError (CanonicalEvent sha) := do
  let e ← catching [.eventContract]
    (integrityError (lit "stored canonical event bytes failed validation"))
    (codec.loads row.canonicalEvent)
  let expected ← eventRow codec e row.partitionSha256
  raiseIf (row ≠ expected)
    (integrityError (lit "stored event columns do not match canonical event bytes"))
  raiseIf (db.artifactsOf e.eventId ≠ artifactRows codec e)
    (integrityError (lit "stored artifact descriptors do not match canonical event"))
  return e

def LedgerDb.selectEventBySha256 (codec : LedgerCodec sha) (db : LedgerDb) (eventSha256 : Str) :
    Except LedgerError (Option (CanonicalEvent sha)) :=
  match db.events.find? (fun r => decide (r.eventSha256 = eventSha256)) with
  | none => .ok none
  | some row => some <$> db.eventFromRow codec row

end Rows

section Inserts

def LedgerDb.extendsStreamHead (db : LedgerDb) (row : EventRow) : Bool :=
  (db.streamHeads.get? (row.partitionSha256, row.streamId)).any (fun h =>
    decide (h.partition = row.partition ∧ h.currentStreamVersion + 1 = row.streamVersion ∧
      h.currentEventSha256 = row.previousStreamEventSha256))

def uniqueColumn (table column : Str) : LedgerError :=
  databaseError (lit "UNIQUE constraint failed: " ++ table ++ lit "." ++ column)

def checkFailed (column : Str) : LedgerError :=
  databaseError (lit "CHECK constraint failed: " ++ column)

def LedgerDb.validateEventInsert (codec : LedgerCodec sha) (db : LedgerDb) (row : EventRow) :
    Except LedgerError Unit := do
  raiseIf (db.extendsStreamHead row = false)
    (databaseError (lit "event does not extend the current stream head"))
  raiseIf (db.currentGlobalPosition + 1 ≠ row.globalPosition)
    (databaseError (lit "event does not extend the global ledger head"))
  raiseIf (row.streamVersion < 1) (checkFailed (lit "stream_version >= 1"))
  raiseIf (row.globalPosition < 1) (checkFailed (lit "global_position >= 1"))
  raiseIf (128 < row.artifactRefCount) (checkFailed (lit "artifact_ref_count BETWEEN 0 AND 128"))
  let bytes ← encodedLength row.canonicalEvent
  raiseIf (¬(2 ≤ bytes ∧ bytes ≤ eventJsonMaxBytes) ∨ codec.jsonValid row.canonicalEvent = false)
    (checkFailed (lit "canonical_event"))
  raiseIf (row.eventId ∈ db.events.map (·.eventId))
    (uniqueColumn (lit "v3_event_ledger_events") (lit "event_id"))
  raiseIf (row.eventSha256 ∈ db.events.map (·.eventSha256))
    (uniqueColumn (lit "v3_event_ledger_events") (lit "event_sha256"))
  raiseIf (row.globalPosition ∈ db.events.map (·.globalPosition))
    (uniqueColumn (lit "v3_event_ledger_events") (lit "global_position"))
  raiseIf ((row.partitionSha256, row.streamId, row.streamVersion) ∈
      db.events.map (fun r => (r.partitionSha256, r.streamId, r.streamVersion)))
    (uniqueColumn (lit "v3_event_ledger_events") (lit "partition_sha256, stream_id, stream_version"))

def insertEventRow (codec : LedgerCodec sha) (row : EventRow) : LedgerOp Unit := do
  inspect (fun db => db.validateEventInsert codec row)
  assign (fun db => { db with events := db.events ++ [row] })

def LedgerDb.validateArtifactInsert (codec : LedgerCodec sha) (db : LedgerDb) (a : ArtifactRow) :
    Except LedgerError Unit := do
  raiseIf ((db.events.any (fun r =>
      decide (r.eventId = a.eventId ∧ a.ordinal < r.artifactRefCount))) = false)
    (databaseError (lit "event artifact ordinal is outside the event descriptor"))
  raiseIf (67108864 < a.sizeBytes) (checkFailed (lit "size_bytes BETWEEN 0 AND 67108864"))
  raiseIf (a.availability = .pending) (checkFailed (lit "availability"))
  let bytes ← encodedLength a.descriptor
  raiseIf (¬(2 ≤ bytes ∧ bytes ≤ 16384) ∨ codec.jsonValid a.descriptor = false)
    (checkFailed (lit "descriptor"))
  raiseIf ((a.eventId, a.ordinal) ∈ db.artifacts.map (fun b => (b.eventId, b.ordinal)))
    (uniqueColumn (lit "v3_event_ledger_artifacts") (lit "event_id, ordinal"))
  raiseIf ((a.eventId, a.artifactId) ∈ db.artifacts.map (fun b => (b.eventId, b.artifactId)))
    (uniqueColumn (lit "v3_event_ledger_artifacts") (lit "event_id, artifact_id"))

def insertArtifactRow (codec : LedgerCodec sha) (a : ArtifactRow) : LedgerOp Unit := do
  inspect (fun db => db.validateArtifactInsert codec a)
  assign (fun db => { db with artifacts := db.artifacts ++ [a] })

def insertStreamHead (partitionSha256 streamId : Str) (partition : LedgerTenantPartition) :
    LedgerOp Unit := do
  inspect (fun db => raiseIf (db.streamHeads.contains (partitionSha256, streamId) = true)
    (uniqueColumn (lit "v3_event_ledger_stream_heads") (lit "partition_sha256, stream_id")))
  assign (fun db => { db with
    streamHeads := db.streamHeads.set (partitionSha256, streamId) ⟨partition, 0, none, none⟩ })

end Inserts

section Updates

def LedgerDb.headToAdvance (db : LedgerDb) (e : CanonicalEvent sha) (partitionSha256 : Str) :
    Except LedgerError StreamHead := do
  let h ← demand ((db.streamHeads.get? (partitionSha256, e.streamId)).filter (fun h =>
      decide (h.currentStreamVersion + 1 = e.streamVersion ∧
        h.currentEventSha256 = e.previousStreamEventSha256)))
    ⟨.conflict, lit "TBM_EVENT_LEDGER_STALE_STREAM_VERSION",
      lit "stream head changed during append"⟩
  raiseIf ((db.events.any (fun r => decide (r.partitionSha256 = partitionSha256 ∧
      r.streamId = e.streamId ∧ r.streamVersion = e.streamVersion ∧ r.eventId = e.eventId ∧
      r.eventSha256 = e.eventSha256))) = false)
    (databaseError (lit "event ledger stream head advance is invalid"))
  return h

def advanceStreamHead (e : CanonicalEvent sha) (partitionSha256 : Str) : LedgerOp Unit := do
  let h ← inspect (fun db => db.headToAdvance e partitionSha256)
  assign (fun db => { db with
    streamHeads := db.streamHeads.set (partitionSha256, e.streamId)
      { h with
        currentStreamVersion := e.streamVersion
        currentEventId := some e.eventId
        currentEventSha256 := some e.eventSha256 } })

def LedgerDb.validateGlobalAdvance (db : LedgerDb) (e : CanonicalEvent sha) :
    Except LedgerError Unit := do
  raiseIf (db.currentGlobalPosition + 1 ≠ e.globalPosition)
    ⟨.conflict, lit "TBM_EVENT_LEDGER_GLOBAL_POSITION_CONFLICT",
      lit "global ledger head changed during append"⟩
  raiseIf ((db.events.any (fun r => decide (r.globalPosition = e.globalPosition ∧
      r.eventId = e.eventId ∧ r.eventSha256 = e.eventSha256))) = false)
    (databaseError (lit "event ledger global head advance is invalid"))

def advanceGlobalHead (e : CanonicalEvent sha) : LedgerOp Unit := do
  inspect (fun db => db.validateGlobalAdvance e)
  assign (fun db => { db with
    currentGlobalPosition := e.globalPosition
    globalEventId := some e.eventId
    globalEventSha256 := some e.eventSha256 })

end Updates

end TraceBackedMemory
