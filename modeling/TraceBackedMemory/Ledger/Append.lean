import TraceBackedMemory.Ledger.Database

namespace TraceBackedMemory

open Text Raising

variable {sha : Sha256}

section Selects

def LedgerDb.headEvent (codec : LedgerCodec sha) (db : LedgerDb) (streamId : Str) (head : StreamHead) :
    Except LedgerError (Option (CanonicalEvent sha)) :=
  match head.currentEventSha256 with
  | none =>
    if head.currentStreamVersion = 0 ∧ head.currentEventId = none then .ok none
    else .error (integrityError (lit "stream head has an invalid shape"))
  | some eventSha256 => do
    let e ← db.selectEventBySha256 codec eventSha256
    match e with
    | none => .error (integrityError (lit "stream head does not match its current canonical event"))
    | some e => do
      raiseIf (head.currentEventId ≠ some e.eventId ∨ e.streamId ≠ streamId ∨
          e.streamVersion ≠ head.currentStreamVersion)
        (integrityError (lit "stream head does not match its current canonical event"))
      return some e

def LedgerDb.selectHeadEvent (codec : LedgerCodec sha) (db : LedgerDb) (access : LedgerAccessContext)
    (streamId : Str) : Except LedgerError (Option (CanonicalEvent sha)) :=
  match db.streamHeads.get? (access.partition.sha256 sha, streamId) with
  | none => .ok none
  | some head => do
    raiseIf (head.partition ≠ access.partition)
      (integrityError (lit "stream head tenant partition is inconsistent"))
    db.headEvent codec streamId head

def LedgerDb.retainedEvent (codec : LedgerCodec sha) (db : LedgerDb) (eventSha256 : Str) :
    Except LedgerError (CanonicalEvent sha) := do
  let e ← db.selectEventBySha256 codec eventSha256
  demand e (integrityError (lit "stored idempotency record references a missing event"))

def LedgerDb.receiptFromIdempotencyRow (codec : LedgerCodec sha) (db : LedgerDb)
    (idempotencyKeySha256 : Str) (row : IdempotencyRow) :
    Except LedgerError (LedgerAppendReceipt sha) := do
  raiseIf (row.eventSha256s = [] ∨ 100 < row.eventSha256s.length ∨
      row.eventSha256s.all validDigest = false)
    (integrityError (lit "stored idempotency event list is noncanonical"))
  let events ← collect (db.retainedEvent codec) row.eventSha256s
  let receipt : LedgerAppendReceipt sha :=
    { requestSha256 := row.requestSha256
      idempotencyKeySha256 := idempotencyKeySha256
      commandSha256 := row.commandSha256
      streamId := row.streamId
      previousStreamVersion := row.previousStreamVersion
      currentStreamVersion := row.currentStreamVersion
      firstGlobalPosition := row.firstGlobalPosition
      lastGlobalPosition := row.lastGlobalPosition
      events := events
      receiptSha256 := row.receiptSha256 }
  catching portFaults
    (integrityError (lit "stored idempotency receipt failed contract validation")) receipt.check
  return receipt

end Selects

section Append

def insertEvent (codec : LedgerCodec sha) (partitionSha256 : Str) (e : CanonicalEvent sha) :
    LedgerOp Unit := do
  let row ← inspect (fun _ => eventRow codec e partitionSha256)
  insertEventRow codec row
  forEach (insertArtifactRow codec) (artifactRows codec e)
  advanceStreamHead e partitionSha256
  advanceGlobalHead e

def idempotencyRow (r : LedgerAppendRequest sha) (receipt : LedgerAppendReceipt sha) :
    IdempotencyRow :=
  ⟨r.idempotency.commandSha256, r.requestSha256, r.streamId, receipt.previousStreamVersion,
    receipt.currentStreamVersion, receipt.firstGlobalPosition, receipt.lastGlobalPosition,
    eventSha256s r.events, receipt.receiptSha256⟩

def insertIdempotency (key : Str × Str) (row : IdempotencyRow) : LedgerOp Unit := do
  inspect (fun db => do
    raiseIf (row.currentStreamVersion ≤ row.previousStreamVersion)
      (checkFailed (lit "current_stream_version > previous_stream_version"))
    raiseIf (row.firstGlobalPosition < 1 ∨ row.lastGlobalPosition < row.firstGlobalPosition)
      (checkFailed (lit "last_global_position >= first_global_position"))
    raiseIf (db.idempotency.contains key = true)
      (uniqueColumn (lit "v3_event_ledger_idempotency")
        (lit "partition_sha256, idempotency_key_sha256")))
  assign (fun db => { db with idempotency := db.idempotency.set key row })

def LedgerAppendRequest.idempotencyKey (r : LedgerAppendRequest sha) : Str × Str :=
  (r.access.partition.sha256 sha, r.idempotency.idempotencyKeySha256)

def LedgerDb.verifiedReceipt (codec : LedgerCodec sha) (db : LedgerDb) (r : LedgerAppendRequest sha)
    (row : IdempotencyRow) : Except LedgerError (LedgerAppendReceipt sha) := do
  let retained ← db.receiptFromIdempotencyRow codec r.idempotency.idempotencyKeySha256 row
  verifyLedgerAppendReceipt r retained
  return retained

def idempotencyConflict : LedgerError :=
  ⟨.idempotencyConflict, lit "TBM_EVENT_LEDGER_IDEMPOTENCY_CONFLICT",
    lit "idempotency key is bound to another command"⟩

def replayAppend (codec : LedgerCodec sha) (r : LedgerAppendRequest sha) (row : IdempotencyRow) :
    LedgerOp (LedgerAppendCommit sha) :=
  inspect (fun db => do
    raiseIf (row.commandSha256 ≠ r.idempotency.commandSha256 ∨ row.requestSha256 ≠ r.requestSha256)
      idempotencyConflict
    let retained ← db.verifiedReceipt codec r row
    return ⟨retained, false⟩)

def LedgerDb.appendableHead (codec : LedgerCodec sha) (db : LedgerDb) (r : LedgerAppendRequest sha) :
    Except LedgerError (Option (CanonicalEvent sha)) := do
  let head ← db.selectHeadEvent codec r.access r.streamId
  verifyLedgerAppendPrecondition r head (db.currentGlobalPosition + 1)
  return head

def ensureStreamHead (r : LedgerAppendRequest sha) (head : Option (CanonicalEvent sha)) :
    LedgerOp Unit :=
  if head = none then insertStreamHead (r.access.partition.sha256 sha) r.streamId r.access.partition
  else pure ()

def freshAppend (codec : LedgerCodec sha) (r : LedgerAppendRequest sha) :
    LedgerOp (LedgerAppendCommit sha) := do
  let head ← inspect (fun db => db.appendableHead codec r)
  ensureStreamHead r head
  forEach (insertEvent codec (r.access.partition.sha256 sha)) r.events
  let receipt ← inspect (fun _ => buildLedgerAppendReceipt r)
  insertIdempotency r.idempotencyKey (idempotencyRow r receipt)
  inspect (fun db => do
    let row ← demand (db.idempotency.get? r.idempotencyKey)
      (integrityError (lit "committed idempotency receipt could not be read back"))
    let retained ← db.verifiedReceipt codec r row
    return ⟨retained, true⟩)

def appendInTransaction (codec : LedgerCodec sha) (access : LedgerAccessContext)
    (r : LedgerAppendRequest sha) : LedgerOp (LedgerAppendCommit sha) := do
  inspect (fun _ => raiseIf (r.access ≠ access)
    ⟨.valueError, [], lit "request access must match the bound ledger access"⟩)
  let retained ← inspect (fun db => .ok (db.idempotency.get? r.idempotencyKey))
  match retained with
  | some row => replayAppend codec r row
  | none => freshAppend codec r

def transaction {α : Type} (m : LedgerOp α) : LedgerOp α := fun db =>
  match m db with
  | .ok a db' => .ok a db'
  | .error e _ => .error e db

def persisting {α : Type} (message : Str) (m : LedgerOp α) : LedgerOp α := fun db =>
  match m db with
  | .ok a db' => .ok a db'
  | .error e db' => .error (if e.fault = .database then persistenceError message else e) db'

@[ext]
structure AppendCall (sha : Sha256) where
  access : LedgerAccessContext
  streamId : Str
  expectedVersion : Nat
  events : List (CanonicalEvent sha)
  idempotency : LedgerIdempotency
  deriving DecidableEq

def AppendCall.request (c : AppendCall sha) : LedgerAppendRequest sha :=
  ⟨c.access, c.streamId, c.expectedVersion, c.events, c.idempotency⟩

def appendOnce (codec : LedgerCodec sha) (c : AppendCall sha) : LedgerOp (LedgerAppendCommit sha) := do
  inspect (fun _ => c.request.check)
  persisting (lit "SQLite event ledger append failed atomically")
    (transaction (appendInTransaction codec c.access c.request))

def runLedger (codec : LedgerCodec sha) (db : LedgerDb) (calls : List (AppendCall sha)) : LedgerDb :=
  calls.foldl (fun db c => finalState (appendOnce codec c db)) db

end Append

open Text Raising

variable {sha : Sha256} {codec : LedgerCodec sha}

section Statements

structure EventRow.Fits (row : EventRow) (db : LedgerDb) (head : StreamHead) : Prop where
  at_key : db.streamHeads.get? (row.partitionSha256, row.streamId) = some head
  partition : head.partition = row.partition
  version : head.currentStreamVersion + 1 = row.streamVersion
  parent : head.currentEventSha256 = row.previousStreamEventSha256
  position : db.currentGlobalPosition + 1 = row.globalPosition
  event_id : row.eventId ∉ db.events.map (·.eventId)
  event_sha256 : row.eventSha256 ∉ db.events.map (·.eventSha256)

def StreamHead.advanced (head : StreamHead) (row : EventRow) : StreamHead :=
  { head with
    currentStreamVersion := row.streamVersion
    currentEventId := some row.eventId
    currentEventSha256 := some row.eventSha256 }

def LedgerDb.extended (db : LedgerDb) (row : EventRow) (head : StreamHead)
    (artifacts : List ArtifactRow) : LedgerDb :=
  { db with
    events := db.events ++ [row]
    artifacts := db.artifacts ++ artifacts
    streamHeads := db.streamHeads.set (row.partitionSha256, row.streamId) (head.advanced row)
    currentGlobalPosition := row.globalPosition
    globalEventId := some row.eventId
    globalEventSha256 := some row.eventSha256 }

theorem eventRow_eq_ok {e : CanonicalEvent sha} {p : Str} {row : EventRow}
    (h : eventRow codec e p = .ok row) :
    row = ⟨e.eventId, e.eventSha256, p, e.partition, e.streamId, e.streamVersion, e.globalPosition,
      e.previousStreamEventSha256, e.classification, e.artifactRefs.length, codec.dumps e⟩ := by
  simp only [eventRow, bind_eq_ok, exists_unit, raiseIf_eq_ok, pure_eq_ok] at h
  obtain ⟨_, _, _, rfl⟩ := h
  rfl

theorem validateEventInsert_eq_ok {db : LedgerDb} {row : EventRow}
    (h : db.validateEventInsert codec row = .ok ()) : ∃ head, row.Fits db head := by
  simp only [LedgerDb.validateEventInsert, bind_eq_ok, exists_unit, raiseIf_eq_ok,
    Bool.not_eq_false, Decidable.not_not] at h
  obtain ⟨hext, hpos, _, _, _, _, _, _, hid, hsha, _, _⟩ := h
  simp only [LedgerDb.extendsStreamHead, Option.any_eq_true, decide_eq_true_eq] at hext
  obtain ⟨head, hhead, hpart, hver, hparent⟩ := hext
  exact ⟨head, hhead, hpart, hver, hparent, hpos, hid, hsha⟩

theorem insertEventRow_eq_ok {db db' : LedgerDb} {row : EventRow} {u : Unit}
    (h : insertEventRow codec row db = .ok u db') :
    (∃ head, row.Fits db head) ∧ db' = { db with events := db.events ++ [row] } := by
  simp only [insertEventRow, run_bind_eq_ok, run_inspect_eq_ok, run_assign_eq_ok] at h
  obtain ⟨_, _, ⟨hvalid, rfl⟩, rfl⟩ := h
  exact ⟨validateEventInsert_eq_ok hvalid, rfl⟩

theorem insertArtifactRow_eq_ok {db db' : LedgerDb} {a : ArtifactRow} {u : Unit}
    (h : insertArtifactRow codec a db = .ok u db') :
    db' = { db with artifacts := db.artifacts ++ [a] } := by
  simp only [insertArtifactRow, run_bind_eq_ok, run_inspect_eq_ok, run_assign_eq_ok] at h
  obtain ⟨_, _, ⟨_, rfl⟩, rfl⟩ := h
  rfl

theorem insertArtifactRows_eq_ok {artifacts : List ArtifactRow} {db db' : LedgerDb} {u : Unit}
    (h : forEach (insertArtifactRow codec) artifacts db = .ok u db') :
    db' = { db with artifacts := db.artifacts ++ artifacts } := by
  induction artifacts generalizing db with
  | nil =>
    cases h
    simp
  | cons a artifacts ih =>
    obtain ⟨_, t, ha, hrest⟩ := run_bind_eq_ok.mp h
    rw [ih hrest, insertArtifactRow_eq_ok ha]
    simp

theorem headToAdvance_eq_ok {db : LedgerDb} {e : CanonicalEvent sha} {p : Str} {head : StreamHead}
    (h : db.headToAdvance e p = .ok head) : db.streamHeads.get? (p, e.streamId) = some head := by
  simp only [LedgerDb.headToAdvance, bind_eq_ok, demand_eq_ok, exists_unit, raiseIf_eq_ok,
    pure_eq_ok] at h
  obtain ⟨_, hfilter, _, rfl⟩ := h
  exact (Option.filter_eq_some_iff.mp hfilter).1

theorem insertEvent_eq_ok {p : Str} {e : CanonicalEvent sha} {db db' : LedgerDb} {u : Unit}
    (h : insertEvent codec p e db = .ok u db') :
    ∃ row head, eventRow codec e p = .ok row ∧ row.Fits db head ∧
      db' = db.extended row head (artifactRows codec e) := by
  simp only [insertEvent, run_bind_eq_ok, run_inspect_eq_ok, advanceStreamHead, advanceGlobalHead,
    run_assign_eq_ok] at h
  obtain ⟨row, _, ⟨hrow, rfl⟩, _, t₁, hinsert, _, t₂, hartifacts, _, _,
    ⟨h₃, _, ⟨hadvance, rfl⟩, rfl⟩, _, _, ⟨_, rfl⟩, rfl⟩ := h
  obtain ⟨⟨head, hfits⟩, rfl⟩ := insertEventRow_eq_ok hinsert
  have ht₂ := insertArtifactRows_eq_ok hartifacts
  subst ht₂
  have hhead := headToAdvance_eq_ok hadvance
  obtain rfl := eventRow_eq_ok hrow
  have heq : h₃ = head := Option.some.inj (hhead.symm.trans hfits.at_key)
  subst heq
  exact ⟨_, h₃, hrow, hfits, rfl⟩

theorem ensureStreamHead_eq_ok {r : LedgerAppendRequest sha} {head : Option (CanonicalEvent sha)}
    {db db' : LedgerDb} {u : Unit} (h : ensureStreamHead r head db = .ok u db') :
    db' = db ∨ (db.streamHeads.get? (r.access.partition.sha256 sha, r.streamId) = none ∧
      db' = { db with
        streamHeads := db.streamHeads.set (r.access.partition.sha256 sha, r.streamId)
          ⟨r.access.partition, 0, none, none⟩ }) := by
  unfold ensureStreamHead at h
  split at h
  · simp only [insertStreamHead, run_bind_eq_ok, run_inspect_eq_ok, run_assign_eq_ok, raiseIf_eq_ok,
      Bool.not_eq_true, Dict.contains_eq_false] at h
    obtain ⟨_, _, ⟨hnone, rfl⟩, rfl⟩ := h
    exact .inr ⟨hnone, rfl⟩
  · rw [run_pure_eq_ok] at h
    exact .inl h.2.symm

theorem insertIdempotency_eq_ok {key : Str × Str} {row : IdempotencyRow} {db db' : LedgerDb} {u : Unit}
    (h : insertIdempotency key row db = .ok u db') :
    db.idempotency.get? key = none ∧
      db' = { db with idempotency := db.idempotency.set key row } := by
  simp only [insertIdempotency, run_bind_eq_ok, run_inspect_eq_ok, run_assign_eq_ok, bind_eq_ok,
    exists_unit, raiseIf_eq_ok, Bool.not_eq_true, Dict.contains_eq_false] at h
  obtain ⟨_, ⟨⟨_, _, hnone⟩, rfl⟩, rfl⟩ := h
  exact ⟨hnone, rfl⟩

end Statements

section Retention

structure Retains (db db' : LedgerDb) : Prop where
  events : db.events <+: db'.events
  artifacts : ∀ r ∈ db.events, db'.artifactsOf r.eventId = db.artifactsOf r.eventId
  idempotency : ∀ k row, db.idempotency.get? k = some row → db'.idempotency.get? k = some row

theorem Retains.refl (db : LedgerDb) : Retains db db :=
  ⟨List.prefix_refl _, fun _ _ => rfl, fun _ _ h => h⟩

theorem Retains.trans {a b c : LedgerDb} (hab : Retains a b) (hbc : Retains b c) : Retains a c := by
  refine ⟨hab.events.trans hbc.events, fun r hr => ?_, fun k row h => ?_⟩
  · rw [hbc.artifacts r (hab.events.subset hr), hab.artifacts r hr]
  · exact hbc.idempotency k row (hab.idempotency k row h)

theorem artifactsOf_append {db : LedgerDb} {artifacts : List ArtifactRow} {eventId : Str}
    (h : ∀ a ∈ artifacts, a.eventId ≠ eventId) :
    LedgerDb.artifactsOf { db with artifacts := db.artifacts ++ artifacts } eventId =
      db.artifactsOf eventId := by
  have hnone : artifacts.filter (fun a => decide (a.eventId = eventId)) = [] := by
    rw [List.filter_eq_nil_iff]
    intro a ha
    simpa using h a ha
  simp only [LedgerDb.artifactsOf, List.filter_append, hnone, List.append_nil]

theorem retains_extended {db : LedgerDb} {row : EventRow} {head : StreamHead}
    {artifacts : List ArtifactRow} (h : row.Fits db head)
    (ha : ∀ a ∈ artifacts, a.eventId = row.eventId) :
    Retains db (db.extended row head artifacts) := by
  refine ⟨List.prefix_append _ _, fun r hr => ?_, fun _ _ hk => hk⟩
  refine artifactsOf_append fun a hmem heq => h.event_id ?_
  rw [← ha a hmem, heq]
  exact List.mem_map_of_mem hr

theorem eventFromRow_eq_ok {db : LedgerDb} {row : EventRow} {e : CanonicalEvent sha} :
    db.eventFromRow codec row = .ok e ↔
      codec.loads row.canonicalEvent = .ok e ∧ eventRow codec e row.partitionSha256 = .ok row ∧
        db.artifactsOf e.eventId = artifactRows codec e := by
  simp only [LedgerDb.eventFromRow, bind_eq_ok, exists_unit, raiseIf_eq_ok, pure_eq_ok,
    catching_eq_ok, ne_eq, Decidable.not_not]
  constructor
  · rintro ⟨_, hloads, _, hrow, rfl, hart, rfl⟩
    exact ⟨hloads, hrow, hart⟩
  · rintro ⟨hloads, hrow, hart⟩
    exact ⟨e, hloads, row, hrow, rfl, hart, rfl⟩

theorem eventFromRow_columns {db : LedgerDb} {row : EventRow} {e : CanonicalEvent sha}
    (h : db.eventFromRow codec row = .ok e) :
    row = ⟨e.eventId, e.eventSha256, row.partitionSha256, e.partition, e.streamId, e.streamVersion,
      e.globalPosition, e.previousStreamEventSha256, e.classification, e.artifactRefs.length,
      codec.dumps e⟩ :=
  eventRow_eq_ok (eventFromRow_eq_ok.mp h).2.1

theorem Retains.eventFromRow {db db' : LedgerDb} (hr : Retains db db') {row : EventRow}
    (hrow : row ∈ db.events) {e : CanonicalEvent sha} (h : db.eventFromRow codec row = .ok e) :
    db'.eventFromRow codec row = .ok e := by
  have hid : e.eventId = row.eventId := by rw [eventFromRow_columns h]
  rw [eventFromRow_eq_ok] at h ⊢
  obtain ⟨hloads, hexpected, hart⟩ := h
  refine ⟨hloads, hexpected, ?_⟩
  rw [hid] at hart ⊢
  rw [hr.artifacts row hrow, hart]

theorem selectEventBySha256_eq_some {db : LedgerDb} {s : Str} {e : CanonicalEvent sha} :
    db.selectEventBySha256 codec s = .ok (some e) ↔
      ∃ row, db.events.find? (fun r => decide (r.eventSha256 = s)) = some row ∧
        db.eventFromRow codec row = .ok e := by
  unfold LedgerDb.selectEventBySha256
  cases db.events.find? (fun r => decide (r.eventSha256 = s)) with
  | none => simp
  | some row => simp [map_eq_ok]

theorem Retains.selectEventBySha256 {db db' : LedgerDb} (hr : Retains db db') {s : Str}
    {e : CanonicalEvent sha} (h : db.selectEventBySha256 codec s = .ok (some e)) :
    db'.selectEventBySha256 codec s = .ok (some e) := by
  rw [selectEventBySha256_eq_some] at h ⊢
  obtain ⟨row, hfind, hrow⟩ := h
  obtain ⟨more, hmore⟩ := hr.events
  refine ⟨row, ?_, hr.eventFromRow (List.mem_of_find?_eq_some hfind) hrow⟩
  rw [← hmore, List.find?_append, hfind]
  rfl

theorem retainedEvent_eq_ok {db : LedgerDb} {s : Str} {e : CanonicalEvent sha} :
    db.retainedEvent codec s = .ok e ↔ db.selectEventBySha256 codec s = .ok (some e) := by
  simp only [LedgerDb.retainedEvent, bind_eq_ok, demand_eq_ok]
  constructor
  · rintro ⟨_, h, rfl⟩
    exact h
  · intro h
    exact ⟨_, h, rfl⟩

theorem Retains.verifiedReceipt {db db' : LedgerDb} (hr : Retains db db')
    {r : LedgerAppendRequest sha} {row : IdempotencyRow} {receipt : LedgerAppendReceipt sha}
    (h : db.verifiedReceipt codec r row = .ok receipt) :
    db'.verifiedReceipt codec r row = .ok receipt := by
  simp only [LedgerDb.verifiedReceipt, LedgerDb.receiptFromIdempotencyRow, bind_eq_ok, exists_unit,
    raiseIf_eq_ok, pure_eq_ok, catching_eq_ok, collect_eq_ok] at h ⊢
  obtain ⟨retained, ⟨hlist, events, hevents, hcheck, rfl⟩, hverify, rfl⟩ := h
  refine ⟨_, ⟨hlist, events, ?_, hcheck, rfl⟩, hverify, rfl⟩
  refine hevents.imp fun s e hs => ?_
  rw [retainedEvent_eq_ok] at hs ⊢
  exact hr.selectEventBySha256 hs

end Retention

end TraceBackedMemory
