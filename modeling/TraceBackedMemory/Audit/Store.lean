import TraceBackedMemory.Audit.Contracts
import TraceBackedMemory.Publication.Store

namespace TraceBackedMemory

open Text Raising OrderBy Json

namespace Audit

open EventContract (TextHash)

open Migration (keyed)

open Publication (fits)

section Faults

inductive AuditFault where
  | conflict | persistence | valueError | integrity
  deriving DecidableEq

structure AuditError where
  fault : AuditFault
  message : Str
  deriving DecidableEq

def conflict (message : String) : AuditError := ⟨.conflict, lit message⟩

def persistence (message : String) : AuditError := ⟨.persistence, lit message⟩

def valueError (message : Str) : AuditError := ⟨.valueError, message⟩

def integrityError : AuditError := ⟨.integrity, []⟩

-- a constraint of the schema that fails is a conflict under the operation's own message
def raiseDatabaseError (message : String) (error : AuditError) : AuditError :=
  if error.fault = .integrity then conflict message else error

end Faults

variable (hash : TextHash) (codec : FloatCodec)

section Tables

structure StreamIdentity where
  tenantId : Str
  repositoryId : Str
  sessionId : Str
  traceId : Str
  runId : Str
  deriving DecidableEq

def AuditEvent.identity (e : AuditEvent) : StreamIdentity :=
  ⟨e.tenantId, e.repositoryId, e.sessionId, e.traceId, e.runId⟩

structure HeadRow where
  streamId : Str
  identity : StreamIdentity
  currentSequence : Nat
  currentEventId : Option Str
  deriving DecidableEq

def HeadRow.advanced (row : HeadRow) (e : AuditEvent) : HeadRow :=
  { row with currentSequence := e.sequence, currentEventId := some e.eventId }

structure AuditStreamHead where
  streamId : Str
  identity : StreamIdentity
  currentSequence : Nat
  currentEventId : Str
  deriving DecidableEq

structure RecoveryRow where
  recovery : Recovery hash codec
  eventId : Str
  deriving DecidableEq

-- a descriptor column is kept as the record that its text gives back
structure AuditDb where
  heads : Dict Str HeadRow
  events : List (Event hash codec)
  recoveries : List (RecoveryRow hash codec)

def AuditDb.empty : AuditDb hash codec := ⟨Dict.empty, [], []⟩

variable {hash codec} (db : AuditDb hash codec)

def AuditDb.event? : Str → Option (Event hash codec) := keyed (fun e => e.eventId) db.events

def AuditDb.recovery? : Str → Option (RecoveryRow hash codec) :=
  keyed (fun row => row.recovery.recoveryActionId) db.recoveries

-- the column that names a recovery action holds the only one that the event refers to
def AuditEvent.recoveryColumn (e : AuditEvent) : Option Str :=
  match e.recoveryReferences with
  | [id] => some id
  | _ => none

end Tables

variable {hash codec} (db : AuditDb hash codec)

section Heads

def identityNames (streamId : Str) (i : StreamIdentity) : List (Str × Str) :=
  [(lit "stream_id", streamId), (lit "tenant_id", i.tenantId), (lit "repository_id", i.repositoryId),
    (lit "session_id", i.sessionId), (lit "trace_id", i.traceId), (lit "run_id", i.runId)]

def headFromRow (row : HeadRow) : Except AuditError AuditStreamHead := do
  let current ← demand row.currentEventId (persistence "SQLite audit stream head has an invalid shape")
  raiseIf (row.currentSequence < 1 ∨ auditMaxSequence < row.currentSequence ∨ isEventId current = false)
    (persistence "SQLite audit stream head has an invalid shape")
  raiseIf (∃ f ∈ identityNames row.streamId row.identity, Outbox.boundedText 128 f.2 = false)
    (persistence "SQLite audit stream head identity failed validation")
  return ⟨row.streamId, row.identity, row.currentSequence, current⟩

def AuditStreamHead.matchesEvent (head : AuditStreamHead) (e : AuditEvent) : Prop :=
  e.streamId = head.streamId ∧ e.sequence = head.currentSequence ∧ e.identity = head.identity

instance (head : AuditStreamHead) (e : AuditEvent) : Decidable (head.matchesEvent e) :=
  inferInstanceAs (Decidable (_ ∧ _))

def selectHead (streamId : Str) : Except AuditError (Option AuditStreamHead) :=
  match db.heads.get? streamId with
  | none => .ok none
  | some row => do
    let head ← headFromRow row
    raiseIf (¬∃ e ∈ db.event? head.currentEventId, head.matchesEvent e.toAuditEvent)
      (persistence "SQLite audit stream head does not match its current event")
    return some head

end Heads

section Appending

-- the head as it is before the event, opened for the first event of a stream
def openStream (e : Event hash codec) : Option AuditStreamHead →
    Except AuditError (AuditDb hash codec × Nat × Option Str)
  | none => do
    raiseIf (e.sequence ≠ 1 ∨ e.previousEventId ≠ none)
      (conflict "SQLite audit stream must begin at sequence one")
    return ({ db with heads := db.heads.set e.streamId ⟨e.streamId, e.identity, 0, none⟩ }, 0, none)
  | some head => do
    raiseIf (e.identity ≠ head.identity) (conflict "SQLite audit event identity differs from stream head")
    let parent ← demand (db.event? head.currentEventId)
      (persistence "SQLite audit stream head references a missing event")
    (verifyAuditEventParent e.toAuditEvent (some parent.toAuditEvent)).mapError
      (fun _ => conflict "SQLite audit event does not extend the current stream")
    return (db, head.currentSequence, some head.currentEventId)

def clashes (e other : AuditEvent) : Prop :=
  other.eventId = e.eventId ∨ (other.streamId = e.streamId ∧ other.sequence = e.sequence) ∨
    (e.recoveryColumn ≠ none ∧ other.recoveryColumn = e.recoveryColumn)

instance (e other : AuditEvent) : Decidable (clashes e other) := inferInstanceAs (Decidable (_ ∨ _))

def insertEvent (e : Event hash codec) : Except AuditError (AuditDb hash codec) := do
  raiseIf (∃ other ∈ db.events, clashes e.toAuditEvent other.toAuditEvent) integrityError
  raiseIf (¬(e.eventType.recovers ↔ e.recoveryColumn ≠ none)) integrityError
  raiseIf (e.recoveryColumn.all isRecoveryActionId = false) integrityError
  return { db with events := db.events ++ [e] }

def advanceHead (e : Event hash codec) (previousSequence : Nat) (previousEventId : Option Str) :
    Except AuditError (AuditDb hash codec) := do
  let row ← demand (db.heads.get? e.streamId) (conflict "SQLite audit stream changed during append")
  raiseIf (row.currentSequence ≠ previousSequence ∨ row.currentEventId ≠ previousEventId)
    (conflict "SQLite audit stream changed during append")
  return { db with heads := db.heads.set e.streamId (row.advanced e.toAuditEvent) }

def putEvent (e : Event hash codec) : Except AuditError (AuditDb hash codec × Bool) :=
  match db.event? e.eventId with
  | some existing => do
    raiseIf (existing ≠ e) (conflict "SQLite audit event ID has conflicting immutable content")
    return (db, false)
  | none => do
    let head ← selectHead db e.streamId
    let (opened, previousSequence, previousEventId) ← openStream db e head
    raiseIf (fits (canonicalText codec.repr e.toDict) = false)
      (valueError (lit "audit event descriptor exceeds storage limit"))
    let inserted ← insertEvent opened e
    let advanced ← advanceHead inserted e previousSequence previousEventId
    return (advanced, true)

def linkage : AuditError := conflict "recovery action and audit event linkage differs"

def expectedType : RecoveryResult → AuditEventType
  | .succeeded => .recoverySucceeded
  | .failed => .recoveryFailed

def validateRecoveryEvent (r : RecoveryAction) (e : AuditEvent) : Except AuditError Unit := do
  raiseIf (e.eventType ≠ expectedType r.result ∨ e.recoveryReferences ≠ [r.recoveryActionId] ∨
    e.actorId ≠ r.executorId ∨ e.sessionId ≠ r.sessionId ∨ e.traceId ≠ r.traceId ∨ e.runId ≠ r.runId) linkage
  let occurred ← (parseRfc3339 e.occurredAt).mapError (fun fault => valueError fault.message)
  let finished ← (parseRfc3339 r.finishedAt).mapError (fun fault => valueError fault.message)
  raiseIf (occurred < finished) linkage

def RecoveryRow.clashes (row other : RecoveryRow hash codec) : Prop :=
  other.eventId = row.eventId ∨
    (other.recovery.sessionId = row.recovery.sessionId ∧ other.recovery.requestSha256 = row.recovery.requestSha256)

instance (row other : RecoveryRow hash codec) : Decidable (row.clashes other) :=
  inferInstanceAs (Decidable (_ ∨ _))

def putRecovery (r : Recovery hash codec) (e : Event hash codec) : Except AuditError (AuditDb hash codec × Bool) :=
  match db.recovery? r.recoveryActionId with
  | some stored => do
    raiseIf (stored ≠ ⟨r, e.eventId⟩) (conflict "SQLite recovery action ID has conflicting content")
    return (db, false)
  | none => do
    raiseIf (fits (canonicalText codec.repr r.toDict) = false)
      (valueError (lit "recovery action descriptor exceeds storage limit"))
    raiseIf (∃ other ∈ db.recoveries, RecoveryRow.clashes ⟨r, e.eventId⟩ other) integrityError
    return ({ db with recoveries := db.recoveries ++ [⟨r, e.eventId⟩] }, true)

structure AppendResult where
  eventId : Str
  eventInserted : Bool
  recoveryActionId : Option Str
  recoveryInserted : Bool
  deriving DecidableEq

def appendEvent (e : Event hash codec) : Except AuditError (AuditDb hash codec × Bool) := do
  raiseIf e.eventType.recovers (valueError (lit "recovery events must be appended with append_recovery"))
  (putEvent db e).mapError (raiseDatabaseError "failed to append SQLite audit event")

def appendRecovery (r : Recovery hash codec) (e : Event hash codec) :
    Except AuditError (AuditDb hash codec × AppendResult) := do
  validateRecoveryEvent r.toRecoveryAction e.toAuditEvent
  let write : Except AuditError (AuditDb hash codec × AppendResult) := do
    let (withEvent, eventInserted) ← putEvent db e
    let (written, recoveryInserted) ← putRecovery withEvent r e
    return (written, ⟨e.eventId, eventInserted, some r.recoveryActionId, recoveryInserted⟩)
  write.mapError (raiseDatabaseError "failed to append SQLite recovery evidence")

end Appending

section Reading

def maxPageSize : Nat := 1000

def validateStreamId (streamId : Str) : Except AuditError Unit :=
  raiseIf (Outbox.boundedText 128 streamId = false) (valueError (lit "stream_id must be a bounded identifier"))

def streamHead (streamId : Str) : Except AuditError (Option AuditStreamHead) := do
  validateStreamId streamId
  selectHead db streamId

def verifyPage : Option (Event hash codec) → List (Event hash codec) → Except AuditError Unit
  | _, [] => .ok ()
  | none, e :: page => verifyPage (some e) page
  | some parent, e :: page => do
    (verifyAuditEventParent e.toAuditEvent (some parent.toAuditEvent)).mapError
      (fun _ => persistence "SQLite audit stream failed parent validation")
    verifyPage (some e) page

def pageParent (streamId : Str) (first : Event hash codec) : Except AuditError (Option (Event hash codec)) :=
  if 1 < first.sequence then do
    let row ← demand (db.events.find? (fun e => decide (e.streamId = streamId ∧ e.sequence = first.sequence - 1)))
      (persistence "SQLite audit stream contains a sequence gap")
    return some row
  else .ok none

def verifiedPage (streamId : Str) (events : List (Event hash codec)) :
    Except AuditError (List (Event hash codec)) :=
  match events.head? with
  | none => .ok []
  | some first => do
    let parent ← pageParent db streamId first
    verifyPage parent events
    return events

def listEvents (streamId : Str) (afterSequence limit : Nat) : Except AuditError (List (Event hash codec)) := do
  validateStreamId streamId
  raiseIf (auditMaxSequence < afterSequence) (valueError (lit "after_sequence must be a bounded integer"))
  raiseIf (limit < 1 ∨ maxPageSize < limit) (valueError (lit "limit must be between 1 and 1000"))
  verifiedPage db streamId ((orderBy (fun e : Event hash codec => e.sequence) (db.events.filter
    (fun e => decide (e.streamId = streamId ∧ afterSequence < e.sequence)))).take limit)

-- a reader who asks for the next page after the last event of the page before
def listPages (streamId : Str) (limit : Nat) : Nat → Nat → Except AuditError (List (Event hash codec))
  | 0, _ => .ok []
  | fuel + 1, afterSequence => do
    let page ← listEvents db streamId afterSequence limit
    match page.getLast? with
    | none => return []
    | some last => do
      let rest ← listPages streamId limit fuel last.sequence
      return page ++ rest

end Reading

section Calls

inductive Call (hash : TextHash) (codec : FloatCodec) where
  | event (e : Event hash codec)
  | recovery (r : Recovery hash codec) (e : Event hash codec)

-- what a call answers: which of its records it inserted
structure Answer where
  event : Bool
  recovery : Bool
  deriving DecidableEq

def Call.apply : Call hash codec → Except AuditError (AuditDb hash codec × Answer)
  | .event e => do
    let (after, inserted) ← appendEvent db e
    return (after, ⟨inserted, false⟩)
  | .recovery r e => do
    let (after, result) ← appendRecovery db r e
    return (after, ⟨result.eventInserted, result.recoveryInserted⟩)

-- one transaction: a call that raises leaves the database as it was
def step (call : Call hash codec) : AuditDb hash codec :=
  match call.apply db with
  | .ok (after, _) => after
  | .error _ => db

def run (calls : List (Call hash codec)) : AuditDb hash codec := calls.foldl step db

end Calls

end Audit

end TraceBackedMemory
