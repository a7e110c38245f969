import TraceBackedMemory.Ledger.Chain
import TraceBackedMemory.Ledger.Interleaving

namespace TraceBackedMemory

open Text Raising

variable {sha : Sha256} {codec : LedgerCodec sha}

section Requests

def eventLedgerMaxReadPage : Nat := 1000

def readLimit (value : Nat) : Except LedgerError Unit :=
  raiseIf (¬(1 ≤ value ∧ value ≤ eventLedgerMaxReadPage))
    (invalidRequest (lit "read limit is out of bounds"))

structure LedgerStreamReadRequest where
  access : LedgerAccessContext
  streamId : Str
  fromVersion : Nat
  limit : Nat
  deriving DecidableEq

def LedgerStreamReadRequest.check (r : LedgerStreamReadRequest) : Except LedgerError Unit := do
  identifier r.streamId (lit "stream_id")
  positiveCursor r.fromVersion (lit "from_version") false
  readLimit r.limit

def LedgerDb.streamRows (db : LedgerDb) (partitionSha256 streamId : Str) (fromVersion : Nat) :
    List EventRow :=
  (db.events.filter (fun r => decide (r.partitionSha256 = partitionSha256 ∧ r.streamId = streamId ∧
    fromVersion ≤ r.streamVersion))).mergeSort (fun a b => decide (a.streamVersion ≤ b.streamVersion))

end Requests

section Reports

inductive LedgerVerificationIssueCode where
  | eventHashMismatch
  | globalPositionInvalid
  | hashChainMismatch
  | headMismatch
  | partitionMismatch
  | streamIdMismatch
  | streamVersionGap
  | trustedContextMismatch
  deriving DecidableEq

def verificationIssueOrder : List LedgerVerificationIssueCode :=
  [.eventHashMismatch, .globalPositionInvalid, .hashChainMismatch, .headMismatch,
    .partitionMismatch, .streamIdMismatch, .streamVersionGap, .trustedContextMismatch]

structure LedgerStreamVerification where
  streamId : Str
  partitionSha256 : Str
  verifiedStreamVersion : Nat
  verifiedEventCount : Nat
  headEventSha256 : Option Str
  valid : Bool
  issueCodes : List LedgerVerificationIssueCode
  deriving DecidableEq

def optionalDigest (value : Option Str) (name : Str) : Except LedgerError Unit :=
  match value with
  | none => .ok ()
  | some text => digest text name

def eventLedgerMaxVerificationIssues : Nat := 1000

def inIssueOrder (codes : List LedgerVerificationIssueCode) : List LedgerVerificationIssueCode :=
  verificationIssueOrder.filter (fun code => decide (code ∈ codes))

def LedgerStreamVerification.checkCounts (v : LedgerStreamVerification) : Except LedgerError Unit :=
  if v.verifiedStreamVersion = 0 then
    raiseIf (v.verifiedEventCount ≠ 0 ∨ v.headEventSha256.isSome = true)
      (invalidRequest (lit "empty stream verification is inconsistent"))
  else
    raiseIf (v.verifiedEventCount ≠ v.verifiedStreamVersion ∨ v.headEventSha256 = none)
      (invalidRequest (lit "non-empty stream verification is inconsistent"))

def LedgerStreamVerification.check (v : LedgerStreamVerification) : Except LedgerError Unit := do
  identifier v.streamId (lit "stream_id")
  digest v.partitionSha256 (lit "partition_sha256")
  positiveCursor v.verifiedStreamVersion (lit "verified_stream_version") true
  positiveCursor v.verifiedEventCount (lit "verified_event_count") true
  optionalDigest v.headEventSha256 (lit "head_event_sha256")
  raiseIf (eventLedgerMaxVerificationIssues < v.issueCodes.length ∨ ¬v.issueCodes.Nodup ∨
      v.issueCodes ≠ inIssueOrder v.issueCodes)
    (invalidRequest (lit "verification issue codes are invalid"))
  raiseIf (v.valid = !v.issueCodes.isEmpty)
    (invalidRequest (lit "verification validity and issue codes disagree"))
  v.checkCounts

def verifyLedgerStreamVerification (access : LedgerAccessContext) (streamId : Str)
    (v : LedgerStreamVerification) : Except LedgerError Unit := do
  identifier streamId (lit "stream_id")
  raiseIf (v.streamId ≠ streamId ∨ v.partitionSha256 ≠ access.partition.sha256 sha)
    ⟨.conflict, lit "TBM_EVENT_LEDGER_VERIFICATION_MISMATCH",
      lit "stream verification does not match the requested partition"⟩

end Reports

section Walk

variable (codec : LedgerCodec sha) (access : LedgerAccessContext) (streamId : Str)

def LedgerDb.readOrMismatch (db : LedgerDb) (row : EventRow) :
    Except LedgerError (Option (CanonicalEvent sha)) :=
  match db.eventFromRow codec row with
  | .ok e => .ok (some e)
  | .error error => if error.fault = .integrity then .ok none else .error error

def issueIf (p : Prop) [Decidable p] (code : LedgerVerificationIssueCode) :
    List LedgerVerificationIssueCode := if p then [code] else []

def parentIssues (e : CanonicalEvent sha) (index : Nat) (previous : Option (CanonicalEvent sha)) :
    Except LedgerError (List LedgerVerificationIssueCode) :=
  match previous with
  | none => .ok (issueIf (1 < index ∨ e.previousStreamEventSha256.isSome = true) .hashChainMismatch)
  | some p =>
    match verifyEventParent e (some p) with
    | .ok _ => .ok []
    | .error error => if error.fault = .eventContract then .ok [.hashChainMismatch] else .error error

def eventIssues (index : Nat) (previous : Option (CanonicalEvent sha)) (previousGlobal : Nat)
    (e : CanonicalEvent sha) : Except LedgerError (List LedgerVerificationIssueCode) := do
  raiseIf (access.classificationFilter.allows e.classification = false)
    ⟨.classificationDenied, lit "TBM_EVENT_LEDGER_CLASSIFICATION_DENIED",
      lit "stream classification is not allowed for verification"⟩
  let parents ← parentIssues e index previous
  return issueIf (e.streamId ≠ streamId) .streamIdMismatch ++
    issueIf (e.streamVersion ≠ index) .streamVersionGap ++
    issueIf (e.partition ≠ access.partition) .partitionMismatch ++
    issueIf (e.globalPosition ≤ previousGlobal) .globalPositionInvalid ++ parents

def walkIssues : Nat → Option (CanonicalEvent sha) → Nat → List (Option (CanonicalEvent sha)) →
    Except LedgerError (List LedgerVerificationIssueCode)
  | _, _, _, [] => .ok []
  | index, _, previousGlobal, none :: events => walkIssues (index + 1) none previousGlobal events
  | index, previous, previousGlobal, some e :: events => do
    let found ← eventIssues access streamId index previous previousGlobal e
    let rest ← walkIssues (index + 1) (some e) e.globalPosition events
    return found ++ rest

def StreamHead.names (head : StreamHead) (count : Nat) (e : CanonicalEvent sha) : Bool :=
  decide (head.currentStreamVersion = count ∧ head.currentEventId = some e.eventId ∧
    head.currentEventSha256 = some e.eventSha256)

def StreamHead.isUnused (head : StreamHead) : Bool :=
  decide (head.currentStreamVersion = 0 ∧ head.currentEventId = none ∧
    head.currentEventSha256 = none)

def headIssues (head : Option StreamHead) (events : List (Option (CanonicalEvent sha))) :
    List LedgerVerificationIssueCode :=
  match events.getLast? with
  | none => issueIf (head.all (·.isUnused) = false) .headMismatch
  | some none => [.headMismatch]
  | some (some e) => issueIf (head.any (·.names events.length e) = false) .headMismatch

def zeroDigest : Str := lit "sha256:" ++ List.replicate 64 (cp '0')

def observedHead (rows : List EventRow) : Option Str :=
  rows.getLast?.map (fun row =>
    if validDigest row.eventSha256 then row.eventSha256 else zeroDigest)

def LedgerDb.verificationIssues (db : LedgerDb) :
    Except LedgerError (List LedgerVerificationIssueCode) := do
  let events ← collect (db.readOrMismatch codec)
    (db.streamRows (access.partition.sha256 sha) streamId 0)
  let walked ← walkIssues access streamId 1 none 0 events
  return issueIf (none ∈ events) .eventHashMismatch ++ walked ++
    headIssues (db.streamHeads.get? (access.partition.sha256 sha, streamId)) events

def LedgerDb.verificationResult (db : LedgerDb) : Except LedgerError LedgerStreamVerification := do
  let issues ← db.verificationIssues codec access streamId
  let rows := db.streamRows (access.partition.sha256 sha) streamId 0
  let result : LedgerStreamVerification :=
    ⟨streamId, access.partition.sha256 sha, rows.length, rows.length, observedHead rows,
      (inIssueOrder issues).isEmpty, inIssueOrder issues⟩
  result.check
  @verifyLedgerStreamVerification sha access streamId result
  return result

def verifyStream (db : LedgerDb) : Except LedgerError LedgerStreamVerification := do
  let request : LedgerStreamReadRequest := ⟨access, streamId, 1, 1⟩
  request.check
  db.verificationResult codec access streamId

end Walk

section Exactness

variable {access : LedgerAccessContext} {streamId : Str}

def RecordedNotBefore (p e : CanonicalEvent sha) : Prop :=
  ∃ t t', instant? p.recordedAt = some t ∧ instant? e.recordedAt = some t' ∧ t ≤ t'

structure Follows (p e : CanonicalEvent sha) : Prop where
  version : e.streamVersion = p.streamVersion + 1
  parent : e.previousStreamEventSha256 = some p.eventSha256
  position : p.globalPosition < e.globalPosition
  type : e.streamType = p.streamType
  recorded : RecordedNotBefore p e

structure Belongs (access : LedgerAccessContext) (streamId : Str) (e : CanonicalEvent sha) : Prop where
  stream : e.streamId = streamId
  partition : e.partition = access.partition
  allowed : access.classificationFilter.allows e.classification = true

theorem issueIf_eq_nil {p : Prop} [Decidable p] {code : LedgerVerificationIssueCode} :
    issueIf p code = [] ↔ ¬p := by
  unfold issueIf
  split
  · rename_i h
    simp [h]
  · rename_i h
    simp [h]

theorem eventInstant_eq_ok {s : Str} {t : Int} : eventInstant s = .ok t ↔ instant? s = some t :=
  demand_eq_ok

theorem parent_fields_agree {p e : CanonicalEvent sha} :
    (∀ f ∈ parentFields e p, f.2.1 = f.2.2) ↔
      e.streamId = p.streamId ∧ e.streamType = p.streamType ∧ e.partition = p.partition := by
  simp only [parentFields, List.forall_mem_cons, List.not_mem_nil, false_implies, implies_true,
    and_true, CanonicalEvent.partition, LedgerTenantPartition.mk.injEq]

theorem verifyEventParent_iff {p e : CanonicalEvent sha} (hfirst : e.streamVersion ≠ 1)
    (hstream : e.streamId = p.streamId) (hpartition : e.partition = p.partition) :
    verifyEventParent e (some p) = .ok () ↔ Follows p e := by
  rw [verifyEventParent, if_neg hfirst]
  simp only [bind_eq_ok, exists_unit, raiseIf_eq_ok, checkEach_eq_ok, ne_eq, not_not, not_le,
    not_lt, parent_fields_agree, eventInstant_eq_ok]
  constructor
  · rintro ⟨hparent, hversion, hposition, ⟨_, htype, _⟩, t', ht', t, ht, hle⟩
    exact ⟨hversion, hparent, hposition, htype, t, t', ht, ht', hle⟩
  · rintro ⟨hversion, hparent, hposition, htype, t, t', ht, ht', hle⟩
    exact ⟨hparent, hversion, hposition, ⟨hstream, htype, hpartition⟩, t', ht', t, ht, hle⟩

theorem parentIssues_some {p e : CanonicalEvent sha} {index : Nat} :
    parentIssues e index (some p) = .ok [] ↔ verifyEventParent e (some p) = .ok () := by
  simp only [parentIssues]
  cases h : verifyEventParent e (some p) with
  | ok u => simp
  | error error =>
    simp only [reduceCtorEq, iff_false]
    split <;> simp

theorem eventIssues_eq_nil {index previousGlobal : Nat} {previous : Option (CanonicalEvent sha)}
    {e : CanonicalEvent sha} :
    eventIssues access streamId index previous previousGlobal e = .ok [] ↔
      Belongs access streamId e ∧ e.streamVersion = index ∧ previousGlobal < e.globalPosition ∧
        parentIssues e index previous = .ok [] := by
  simp only [eventIssues, bind_eq_ok, exists_unit, raiseIf_eq_ok, pure_eq_ok,
    List.append_eq_nil_iff, issueIf_eq_nil, ne_eq, not_not, not_le, Bool.not_eq_false]
  constructor
  · rintro ⟨hallowed, parents, hparents, ⟨⟨⟨⟨hstream, hversion⟩, hpartition⟩, hposition⟩, rfl⟩⟩
    exact ⟨⟨hstream, hpartition, hallowed⟩, hversion, hposition, hparents⟩
  · rintro ⟨⟨hstream, hpartition, hallowed⟩, hversion, hposition, hparents⟩
    exact ⟨hallowed, [], hparents, ⟨⟨⟨hstream, hversion⟩, hpartition⟩, hposition⟩, rfl⟩

theorem walkIssues_some {index previousGlobal : Nat} {previous : Option (CanonicalEvent sha)}
    {e : CanonicalEvent sha} {events : List (Option (CanonicalEvent sha))} :
    walkIssues access streamId index previous previousGlobal (some e :: events) = .ok [] ↔
      eventIssues access streamId index previous previousGlobal e = .ok [] ∧
        walkIssues access streamId (index + 1) (some e) e.globalPosition events = .ok [] := by
  simp only [walkIssues, bind_eq_ok, pure_eq_ok, List.append_eq_nil_iff]
  constructor
  · rintro ⟨found, hfound, rest, hrest, rfl, rfl⟩
    exact ⟨hfound, hrest⟩
  · rintro ⟨hfound, hrest⟩
    exact ⟨[], hfound, [], hrest, rfl, rfl⟩

theorem eventIssues_after {p e : CanonicalEvent sha} (hp : Belongs access streamId p) :
    eventIssues access streamId (p.streamVersion + 1) (some p) p.globalPosition e = .ok [] ↔
      Belongs access streamId e ∧ Follows p e := by
  rw [eventIssues_eq_nil, parentIssues_some]
  constructor
  · rintro ⟨he, hversion, _, hparent⟩
    have hfirst : e.streamVersion ≠ 1 := by
      have := p.version_bounds
      omega
    refine ⟨he, (verifyEventParent_iff hfirst ?_ ?_).mp hparent⟩
    · exact he.stream.trans hp.stream.symm
    · exact he.partition.trans hp.partition.symm
  · rintro ⟨he, hfollows⟩
    have hfirst : e.streamVersion ≠ 1 := by
      have := p.version_bounds
      have := hfollows.version
      omega
    refine ⟨he, hfollows.version, hfollows.position, (verifyEventParent_iff hfirst ?_ ?_).mpr hfollows⟩
    · exact he.stream.trans hp.stream.symm
    · exact he.partition.trans hp.partition.symm

-- Induction along the rows: the walk carries the event it just accepted.
theorem walkIssues_after {p : CanonicalEvent sha} (hp : Belongs access streamId p)
    (events : List (CanonicalEvent sha)) :
    walkIssues access streamId (p.streamVersion + 1) (some p) p.globalPosition
        (events.map some) = .ok [] ↔
      (∀ e ∈ events, Belongs access streamId e) ∧ (p :: events).IsChain Follows := by
  induction events generalizing p with
  | nil => simp [walkIssues]
  | cons e events ih =>
    rw [List.map_cons, walkIssues_some, eventIssues_after hp, List.forall_mem_cons,
      List.isChain_cons_cons]
    constructor
    · rintro ⟨⟨he, hfollows⟩, hrest⟩
      rw [← hfollows.version] at hrest
      obtain ⟨hbelong, hchain⟩ := (ih he).mp hrest
      exact ⟨⟨he, hbelong⟩, hfollows, hchain⟩
    · rintro ⟨⟨he, hbelong⟩, hfollows, hchain⟩
      refine ⟨⟨he, hfollows⟩, ?_⟩
      rw [← hfollows.version]
      exact (ih he).mpr ⟨hbelong, hchain⟩

theorem eventIssues_first {e : CanonicalEvent sha} :
    eventIssues access streamId 1 none 0 e = .ok [] ↔
      Belongs access streamId e ∧ e.streamVersion = 1 := by
  rw [eventIssues_eq_nil]
  have hposition : 0 < e.globalPosition := e.position_bounds.1
  have hparent (hversion : e.streamVersion = 1) : parentIssues e 1 none = .ok [] := by
    have hnone := e.first_parent.mp hversion
    simp [parentIssues, issueIf, hnone]
  constructor
  · rintro ⟨he, hversion, _⟩
    exact ⟨he, hversion⟩
  · rintro ⟨he, hversion⟩
    exact ⟨he, hversion, hposition, hparent hversion⟩

theorem walkIssues_eq_nil {events : List (CanonicalEvent sha)} :
    walkIssues access streamId 1 none 0 (events.map some) = .ok [] ↔
      (∀ e ∈ events, Belongs access streamId e) ∧ (∀ e ∈ events.head?, e.streamVersion = 1) ∧
        events.IsChain Follows := by
  cases events with
  | nil => simp [walkIssues]
  | cons e events =>
    rw [List.map_cons, walkIssues_some, eventIssues_first]
    constructor
    · rintro ⟨⟨he, hversion⟩, hrest⟩
      have hwalk := walkIssues_after he events
      rw [hversion] at hwalk
      obtain ⟨hbelong, hchain⟩ := hwalk.mp hrest
      refine ⟨List.forall_mem_cons.mpr ⟨he, hbelong⟩, ?_, hchain⟩
      rintro _ ⟨⟩
      exact hversion
    · rintro ⟨hbelong, hversion, hchain⟩
      obtain ⟨he, hbelong⟩ := List.forall_mem_cons.mp hbelong
      have hone : e.streamVersion = 1 := hversion e rfl
      have hwalk := walkIssues_after he events
      rw [hone] at hwalk
      exact ⟨⟨he, hone⟩, hwalk.mpr ⟨hbelong, hchain⟩⟩

end Exactness

section Conditions

variable (codec : LedgerCodec sha) (access : LedgerAccessContext) (streamId : Str)

def HeadPoints (head : Option StreamHead) (events : List (CanonicalEvent sha)) : Prop :=
  match events.getLast? with
  | none => ∀ h ∈ head, h.isUnused = true
  | some e => ∃ h ∈ head, h.names events.length e = true

structure StreamIntact (db : LedgerDb) (events : List (CanonicalEvent sha)) : Prop where
  decoded : List.Forall₂ (fun row e => db.eventFromRow codec row = .ok e)
    (db.streamRows (access.partition.sha256 sha) streamId 0) events
  versions : events.map (·.streamVersion) = List.range' 1 events.length
  parents : events.IsChain (fun p e => e.previousStreamEventSha256 = some p.eventSha256)
  members : ∀ e ∈ events, e.streamId = streamId ∧ e.partition = access.partition
  head : HeadPoints (db.streamHeads.get? (access.partition.sha256 sha, streamId)) events

structure StreamOrdered (events : List (CanonicalEvent sha)) : Prop where
  positions : events.IsChain (fun p e => p.globalPosition < e.globalPosition)
  types : events.IsChain (fun p e => e.streamType = p.streamType)
  recorded : events.IsChain RecordedNotBefore
  allowed : ∀ e ∈ events, access.classificationFilter.allows e.classification = true

variable {codec access streamId} {db : LedgerDb} {events : List (CanonicalEvent sha)}

theorem versions_eq_range' {n : Nat} :
    events.map (·.streamVersion) = List.range' n events.length ↔
      (∀ e ∈ events.head?, e.streamVersion = n) ∧
        events.IsChain (fun p e => e.streamVersion = p.streamVersion + 1) := by
  induction events generalizing n with
  | nil => simp
  | cons e events ih =>
    rw [List.map_cons, List.length_cons, List.range'_succ, List.cons.injEq, ih]
    constructor
    · rintro ⟨hversion, hfirst, hchain⟩
      refine ⟨?_, List.isChain_cons.mpr ⟨?_, hchain⟩⟩
      · rintro _ ⟨⟩
        exact hversion
      · intro x hx
        rw [hversion]
        exact hfirst x hx
    · rintro ⟨hfirst, hchain⟩
      have hversion : e.streamVersion = n := hfirst e rfl
      obtain ⟨hnext, hchain⟩ := List.isChain_cons.mp hchain
      refine ⟨hversion, ?_, hchain⟩
      intro x hx
      rw [hnext x hx, hversion]

theorem follows_chain (hversions : events.IsChain (fun p e => e.streamVersion = p.streamVersion + 1))
    (hparents : events.IsChain (fun p e => e.previousStreamEventSha256 = some p.eventSha256))
    (hordered : StreamOrdered access events) : events.IsChain Follows := by
  obtain ⟨hpositions, htypes, hrecorded, -⟩ := hordered
  induction events with
  | nil => exact .nil
  | cons e events ih =>
    rw [List.isChain_cons] at hversions hparents hpositions htypes hrecorded ⊢
    refine ⟨?_, ih hversions.2 hparents.2 hpositions.2 htypes.2 hrecorded.2⟩
    intro x hx
    exact ⟨hversions.1 x hx, hparents.1 x hx, hpositions.1 x hx, htypes.1 x hx, hrecorded.1 x hx⟩

theorem walked_iff :
    ((∀ e ∈ events, Belongs access streamId e) ∧ (∀ e ∈ events.head?, e.streamVersion = 1) ∧
        events.IsChain Follows) ↔
      events.map (·.streamVersion) = List.range' 1 events.length ∧
        events.IsChain (fun p e => e.previousStreamEventSha256 = some p.eventSha256) ∧
        (∀ e ∈ events, e.streamId = streamId ∧ e.partition = access.partition) ∧
        StreamOrdered access events := by
  constructor
  · rintro ⟨hbelongs, hfirst, hchain⟩
    have hversions := hchain.imp fun _ _ h => h.version
    refine ⟨versions_eq_range'.mpr ⟨hfirst, hversions⟩, hchain.imp fun _ _ h => h.parent, ?_, ?_⟩
    · intro e he
      exact ⟨(hbelongs e he).stream, (hbelongs e he).partition⟩
    · exact ⟨hchain.imp fun _ _ h => h.position, hchain.imp fun _ _ h => h.type,
        hchain.imp fun _ _ h => h.recorded, fun e he => (hbelongs e he).allowed⟩
  · rintro ⟨hversions, hparents, hmembers, hordered⟩
    obtain ⟨hfirst, hversions⟩ := versions_eq_range'.mp hversions
    refine ⟨?_, hfirst, follows_chain hversions hparents hordered⟩
    intro e he
    exact ⟨(hmembers e he).1, (hmembers e he).2, hordered.allowed e he⟩

theorem readOrMismatch_some {row : EventRow} {e : CanonicalEvent sha} :
    db.readOrMismatch codec row = .ok (some e) ↔ db.eventFromRow codec row = .ok e := by
  simp only [LedgerDb.readOrMismatch]
  cases h : db.eventFromRow codec row with
  | ok e' => simp
  | error error =>
    simp only [reduceCtorEq, iff_false]
    split <;> simp

theorem exists_map_some {α : Type} {l : List (Option α)} (h : none ∉ l) :
    ∃ m : List α, l = m.map some := by
  induction l with
  | nil => exact ⟨[], rfl⟩
  | cons o l ih =>
    rw [List.mem_cons, not_or] at h
    obtain ⟨m, rfl⟩ := ih h.2
    cases o with
    | none => exact absurd rfl h.1
    | some a => exact ⟨a :: m, rfl⟩

theorem collect_some {rows : List EventRow} :
    collect (db.readOrMismatch codec) rows = .ok (events.map some) ↔
      List.Forall₂ (fun row e => db.eventFromRow codec row = .ok e) rows events := by
  simp only [collect_eq_ok, List.forall₂_map_right_iff, readOrMismatch_some]

theorem headIssues_eq_nil {head : Option StreamHead} :
    headIssues head (events.map some) = [] ↔ HeadPoints head events := by
  simp only [headIssues, HeadPoints, List.getLast?_map, List.length_map]
  cases events.getLast? with
  | none =>
    simp only [Option.map_none, issueIf_eq_nil, Bool.not_eq_false, Option.all_eq_true,
      Option.mem_def]
  | some e =>
    simp only [Option.map_some, issueIf_eq_nil, Bool.not_eq_false, Option.any_eq_true,
      Option.mem_def]

theorem verificationIssues_eq_nil :
    db.verificationIssues codec access streamId = .ok [] ↔
      ∃ events, StreamIntact codec access streamId db events ∧ StreamOrdered access events := by
  simp only [LedgerDb.verificationIssues, bind_eq_ok, pure_eq_ok, List.append_eq_nil_iff,
    issueIf_eq_nil]
  constructor
  · rintro ⟨entries, hentries, walked, hwalked, ⟨hread, rfl⟩, hhead⟩
    obtain ⟨events, rfl⟩ := exists_map_some hread
    obtain ⟨hversions, hparents, hmembers, hordered⟩ := walked_iff.mp (walkIssues_eq_nil.mp hwalked)
    exact ⟨events, ⟨collect_some.mp hentries, hversions, hparents, hmembers,
      headIssues_eq_nil.mp hhead⟩, hordered⟩
  · rintro ⟨events, hintact, hordered⟩
    have hwalked := walked_iff.mpr ⟨hintact.versions, hintact.parents, hintact.members, hordered⟩
    exact ⟨events.map some, collect_some.mpr hintact.decoded, [], walkIssues_eq_nil.mpr hwalked,
      ⟨by simp, rfl⟩, headIssues_eq_nil.mpr hintact.head⟩

theorem inIssueOrder_eq_nil {codes : List LedgerVerificationIssueCode} :
    inIssueOrder codes = [] ↔ codes = [] := by
  constructor
  · intro h
    rw [inIssueOrder, List.filter_eq_nil_iff] at h
    refine List.eq_nil_iff_forall_not_mem.mpr ?_
    intro code hcode
    have hknown : code ∈ verificationIssueOrder := by
      cases code <;> decide
    exact h code hknown (decide_eq_true hcode)
  · rintro rfl
    exact List.filter_eq_nil_iff.mpr fun _ _ => by simp

theorem validDigest_zeroDigest : validDigest zeroDigest = true := by
  decide

theorem observedHead_digest (rows : List EventRow) :
    optionalDigest (observedHead rows) (lit "head_event_sha256") = .ok () := by
  unfold observedHead
  cases rows.getLast? with
  | none => rfl
  | some row =>
    rw [Option.map_some, optionalDigest, digest, raiseIf_eq_ok, Bool.not_eq_false]
    split
    · assumption
    · exact validDigest_zeroDigest

theorem observedHead_eq_none {rows : List EventRow} : observedHead rows = none ↔ rows = [] := by
  rw [observedHead, Option.map_eq_none_iff, List.getLast?_eq_none_iff]

theorem checkCounts_ok (rows : List EventRow) (codes : List LedgerVerificationIssueCode)
    (valid : Bool) (p : Str) :
    (LedgerStreamVerification.mk streamId p rows.length rows.length (observedHead rows) valid
      codes).checkCounts = .ok () := by
  simp only [LedgerStreamVerification.checkCounts]
  split
  · rename_i h
    obtain rfl := List.length_eq_zero_iff.mp h
    simp [observedHead]
  · rename_i h
    rw [raiseIf_eq_ok]
    simp only [ne_eq, not_true_eq_false, false_or, observedHead_eq_none]
    rintro rfl
    exact h rfl

theorem StreamIntact.length_le (h : StreamIntact codec access streamId db events) :
    (db.streamRows (access.partition.sha256 sha) streamId 0).length ≤ eventMaxVersion := by
  rw [h.decoded.length_eq]
  by_cases hempty : events.length = 0
  · rw [hempty]
    exact Nat.zero_le _
  · have hlast : events.length ∈ events.map (·.streamVersion) := by
      rw [h.versions, List.mem_range'_1]
      omega
    obtain ⟨e, _, hversion⟩ := List.mem_map.mp hlast
    rw [← hversion]
    exact e.version_bounds.2

def acceptedResult (sha : Sha256) (access : LedgerAccessContext) (streamId : Str)
    (rows : List EventRow) : LedgerStreamVerification :=
  ⟨streamId, access.partition.sha256 sha, rows.length, rows.length, observedHead rows, true, []⟩

theorem acceptedResult_check (hid : isBoundedIdentifier streamId = true) {rows : List EventRow}
    (hlength : rows.length ≤ eventMaxVersion) :
    (acceptedResult sha access streamId rows).check = .ok () := by
  have hdigest : validDigest (access.partition.sha256 sha) = true := sha.validDigest_domain _ _
  have hcounts := @checkCounts_ok streamId rows [] true (access.partition.sha256 sha)
  have horder : inIssueOrder [] = [] := inIssueOrder_eq_nil.mpr rfl
  simp only [acceptedResult, LedgerStreamVerification.check, seq_eq_ok, identifier, digest,
    positiveCursor, raiseIf_eq_ok, hid, hdigest, hlength, hcounts, observedHead_digest, horder]
  simp

theorem acceptedResult_matches (hid : isBoundedIdentifier streamId = true) (rows : List EventRow) :
    @verifyLedgerStreamVerification sha access streamId (acceptedResult sha access streamId rows) =
      .ok () := by
  simp [verifyLedgerStreamVerification, seq_eq_ok, identifier, hid, acceptedResult]

theorem verificationResult_of_intact (hid : isBoundedIdentifier streamId = true)
    (hissues : db.verificationIssues codec access streamId = .ok [])
    (h : StreamIntact codec access streamId db events) :
    db.verificationResult codec access streamId = .ok (acceptedResult sha access streamId
      (db.streamRows (access.partition.sha256 sha) streamId 0)) := by
  have horder : inIssueOrder [] = [] := inIssueOrder_eq_nil.mpr rfl
  simp only [LedgerDb.verificationResult, bind_eq_ok, exists_unit, pure_eq_ok]
  refine ⟨[], hissues, ?_⟩
  rw [horder]
  exact ⟨acceptedResult_check hid h.length_le, acceptedResult_matches hid _, rfl⟩

theorem verificationResult_valid (hid : isBoundedIdentifier streamId = true) :
    (∃ v, db.verificationResult codec access streamId = .ok v ∧ v.valid = true) ↔
      db.verificationIssues codec access streamId = .ok [] := by
  constructor
  · rintro ⟨v, hv, hvalid⟩
    simp only [LedgerDb.verificationResult, bind_eq_ok, exists_unit, pure_eq_ok] at hv
    obtain ⟨issues, hissues, _, _, rfl⟩ := hv
    rw [hissues, inIssueOrder_eq_nil.mp (List.isEmpty_iff.mp hvalid)]
  · intro hissues
    obtain ⟨events, hintact, _⟩ := verificationIssues_eq_nil.mp hissues
    exact ⟨_, verificationResult_of_intact hid hissues hintact, rfl⟩

theorem stream_verification_exact :
    (∃ v, verifyStream codec access streamId db = .ok v ∧ v.valid = true) ↔
      isBoundedIdentifier streamId = true ∧
        ∃ events, StreamIntact codec access streamId db events ∧ StreamOrdered access events := by
  have hrequest : (LedgerStreamReadRequest.mk access streamId 1 1).check = .ok () ↔
      isBoundedIdentifier streamId = true := by
    simp only [LedgerStreamReadRequest.check, seq_eq_ok, identifier, positiveCursor, readLimit,
      raiseIf_eq_ok, Bool.not_eq_false]
    simp [eventMaxVersion, eventLedgerMaxReadPage]
  simp only [verifyStream, seq_eq_ok, hrequest]
  constructor
  · rintro ⟨v, ⟨hid, hv⟩, hvalid⟩
    exact ⟨hid, verificationIssues_eq_nil.mp ((verificationResult_valid hid).mp ⟨v, hv, hvalid⟩)⟩
  · rintro ⟨hid, hevents⟩
    obtain ⟨v, hv, hvalid⟩ :=
      (verificationResult_valid hid).mpr (verificationIssues_eq_nil.mpr hevents)
    exact ⟨v, ⟨hid, hv⟩, hvalid⟩

end Conditions

section Sample

def backdatedEvent : CanonicalEvent sampleSha :=
  ({ sampleEnvelope (lit "evt_4") 2 2 'b' (some firstEvent.eventSha256) .publicly with
    occurredAt := some (lit "2024-04-30T12:00:00Z")
    recordedAt := lit "2024-04-30T12:00:00Z" }).sign sampleSha (by decide) (by decide) (by decide)

def backdatedEvents : List (CanonicalEvent sampleSha) := [firstEvent, backdatedEvent]

def backdatedCodec : LedgerCodec sampleSha :=
  { sampleCodec with
    loads := fun t => demand (backdatedEvents.find? (fun e => decide (sampleDumps e = t)))
      (invalidEvent (lit "canonical event JSON must be an object")) }

def storedRow (e : CanonicalEvent sampleSha) : EventRow :=
  ⟨e.eventId, e.eventSha256, samplePartition.sha256 sampleSha, e.partition, e.streamId,
    e.streamVersion, e.globalPosition, e.previousStreamEventSha256, e.classification,
    e.artifactRefs.length, sampleDumps e⟩

def backdatedDb : LedgerDb where
  events := backdatedEvents.map storedRow
  streamHeads := Dict.empty.set (samplePartition.sha256 sampleSha, lit "stream_1")
    ⟨samplePartition, 2, some backdatedEvent.eventId, some backdatedEvent.eventSha256⟩
  currentGlobalPosition := 2
  globalEventId := some backdatedEvent.eventId
  globalEventSha256 := some backdatedEvent.eventSha256

theorem ok_of_toOption {ε α : Type} {x : Except ε α} {a : α} (h : x.toOption = some a) :
    x = .ok a := by
  cases x with
  | error e => cases h
  | ok b =>
    cases h
    rfl

theorem backdated_streamRows :
    backdatedDb.streamRows (samplePartition.sha256 sampleSha) (lit "stream_1") 0 =
      backdatedEvents.map storedRow := by
  have hstream : ∀ e ∈ backdatedEvents, e.streamId = lit "stream_1" := by decide
  have hfilter : backdatedDb.events.filter (fun r => decide (
      r.partitionSha256 = samplePartition.sha256 sampleSha ∧ r.streamId = lit "stream_1" ∧
        0 ≤ r.streamVersion)) = backdatedEvents.map storedRow := by
    refine List.filter_eq_self.mpr ?_
    intro row hrow
    obtain ⟨e, he, rfl⟩ := List.mem_map.mp hrow
    exact decide_eq_true ⟨rfl, hstream e he, Nat.zero_le _⟩
  rw [LedgerDb.streamRows, hfilter]
  exact List.mergeSort_of_pairwise (by decide)

theorem backdated_facts :
    (∀ e ∈ backdatedEvents, (backdatedCodec.loads (sampleDumps e)).toOption = some e ∧
      encodedBytes (sampleDumps e) = some 7 ∧ e.artifactRefs = [] ∧
        e.streamId = lit "stream_1" ∧ e.partition = samplePartition) ∧
      (walkIssues sampleAccess (lit "stream_1") 1 none 0 (backdatedEvents.map some)).toOption =
        some [.hashChainMismatch] ∧
      backdatedEvents.IsChain (fun p e => e.previousStreamEventSha256 = some p.eventSha256) ∧
      headIssues (backdatedDb.streamHeads.get?
        (samplePartition.sha256 sampleSha, lit "stream_1")) (backdatedEvents.map some) = [] := by
  decide +kernel

theorem backdated_decoded {e : CanonicalEvent sampleSha} (he : e ∈ backdatedEvents) :
    backdatedDb.eventFromRow backdatedCodec (storedRow e) = .ok e := by
  obtain ⟨hloads, hbytes, hrefs, _⟩ := backdated_facts.1 e he
  rw [eventFromRow_eq_ok]
  refine ⟨ok_of_toOption hloads, ?_, ?_⟩
  · have hlength : encodedBytes (backdatedCodec.dumps e) = some 7 := hbytes
    simp only [eventRow, encodedLength, hlength, demand, bind_eq_ok, exists_unit, raiseIf_eq_ok,
      pure_eq_ok]
    exact ⟨7, rfl, by decide, rfl⟩
  · simp [LedgerDb.artifactsOf, backdatedDb, artifactRows, hrefs]

theorem backdated_rows_decoded :
    List.Forall₂ (fun row e => backdatedDb.eventFromRow backdatedCodec row = .ok e)
      (backdatedDb.streamRows (samplePartition.sha256 sampleSha) (lit "stream_1") 0)
      backdatedEvents := by
  rw [backdated_streamRows, List.forall₂_map_left_iff, List.forall₂_same]
  exact fun e he => backdated_decoded he

theorem backdated_issues :
    backdatedDb.verificationIssues backdatedCodec sampleAccess (lit "stream_1") =
      .ok [.hashChainMismatch] := by
  obtain ⟨_, hwalked, _, hhead⟩ := backdated_facts
  simp only [LedgerDb.verificationIssues, bind_eq_ok, pure_eq_ok]
  refine ⟨backdatedEvents.map some, ?_, [.hashChainMismatch], ok_of_toOption hwalked, ?_⟩
  · exact collect_some.mpr backdated_rows_decoded
  · exact congrArg _ hhead

end Sample

theorem backdated_stream_rejected :
    ∃ events, StreamIntact backdatedCodec sampleAccess (lit "stream_1") backdatedDb events ∧
      ∀ v, verifyStream backdatedCodec sampleAccess (lit "stream_1") backdatedDb = .ok v →
        v.valid = false := by
  obtain ⟨hread, _, hparents, hhead⟩ := backdated_facts
  refine ⟨backdatedEvents,
    ⟨backdated_rows_decoded, by decide, hparents, ?_, headIssues_eq_nil.mp hhead⟩, ?_⟩
  · intro e he
    exact (hread e he).2.2.2
  · intro v hv
    simp only [verifyStream, bind_eq_ok, exists_unit, LedgerDb.verificationResult,
      pure_eq_ok, backdated_issues] at hv
    obtain ⟨_, issues, hissues, _, _, rfl⟩ := hv
    cases hissues
    rfl

end TraceBackedMemory
