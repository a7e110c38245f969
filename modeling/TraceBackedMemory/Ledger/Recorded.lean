import TraceBackedMemory.Ledger.Verification

namespace TraceBackedMemory

open Text Raising

variable {sha : Sha256} {codec : LedgerCodec sha}

section Events

-- no stored row of another partition carries this partition's digest
def LedgerDb.Apart (sha : Sha256) (db : LedgerDb) (access : LedgerAccessContext) : Prop :=
  ∀ r ∈ db.events, r.partitionSha256 = access.partition.sha256 sha → r.partition = access.partition

theorem forall₂_filter {α β : Type} {R : α → β → Prop} {p : α → Bool} {q : β → Bool} {l : List α}
    {m : List β} (h : List.Forall₂ R l m) (hpq : ∀ a ∈ l, ∀ b, R a b → p a = q b) :
    List.Forall₂ R (l.filter p) (m.filter q) := by
  induction h with
  | nil => exact .nil
  | @cons a b l m hab _ ih =>
    have htail := ih fun x hx => hpq x (List.mem_cons_of_mem _ hx)
    rw [List.filter_cons, List.filter_cons, hpq a (by simp) b hab]
    split
    · exact .cons hab htail
    · exact htail

theorem forall₂_getLast {α β : Type} {R : α → β → Prop} {l : List α} {m : List β}
    (h : List.Forall₂ R l m) {b : β} (hb : m.getLast? = some b) : ∃ a, l.getLast? = some a ∧ R a b := by
  have hrev : List.Forall₂ R l.reverse m.reverse := List.rel_reverse h
  rw [← List.head?_reverse] at hb ⊢
  generalize l.reverse = l, m.reverse = m at hrev hb
  cases hrev with
  | nil => cases hb
  | cons hab _ => exact ⟨_, rfl, Option.some.inj hb ▸ hab⟩

theorem map_eq_of_reads {α : Type} {f : EventRow → α} {g : CanonicalEvent sha → α} {db : LedgerDb}
    {rows : List EventRow} {events : List (CanonicalEvent sha)}
    (h : List.Forall₂ (fun r e => db.eventFromRow codec r = .ok e) rows events)
    (hfg : ∀ r e, db.eventFromRow codec r = .ok e → f r = g e) : rows.map f = events.map g := by
  induction h with
  | nil => rfl
  | @cons r e rows events hr _ ih => rw [List.map_cons, List.map_cons, hfg r e hr, ih]

def streamOf (all : List (CanonicalEvent sha)) (k : Str × Str) : List (CanonicalEvent sha) :=
  all.filter (fun e => decide ((e.partition.sha256 sha, e.streamId) = k))

-- the events of a ledger, in the order they were committed
structure Recorded (codec : LedgerCodec sha) (db : LedgerDb) (all : List (CanonicalEvent sha)) : Prop where
  sound : LedgerSound codec db
  reads : List.Forall₂ (fun r e => db.eventFromRow codec r = .ok e) db.events all
  threads : ∀ k, (streamOf all k).IsChain Follows

variable {db : LedgerDb} {all : List (CanonicalEvent sha)}

theorem recorded_empty : Recorded codec {} ([] : List (CanonicalEvent sha)) :=
  ⟨ledgerSound_empty, .nil, fun _ => .nil⟩

theorem Recorded.key_eq (h : LedgerSound codec db) {r : EventRow} (hr : r ∈ db.events)
    {e : CanonicalEvent sha} (he : db.eventFromRow codec r = .ok e) :
    rowShape.key r = (e.partition.sha256 sha, e.streamId) := by
  have hpartition : r.partition = e.partition := by rw [eventFromRow_columns he]
  have hstream : r.streamId = e.streamId := by rw [eventFromRow_columns he]
  rw [← hpartition, ← hstream, ← h.chained.partition_sha256 r hr]
  rfl

theorem Recorded.stream (h : Recorded codec db all) (k : Str × Str) :
    List.Forall₂ (fun r e => db.eventFromRow codec r = .ok e) (rowShape.stream db.events k)
      (streamOf all k) :=
  forall₂_filter h.reads fun r hr e he => by rw [Recorded.key_eq h.sound hr he]

theorem Recorded.headEvent (h : Recorded codec db all) {access : LedgerAccessContext} {streamId : Str}
    {head : Option (CanonicalEvent sha)} (hhead : db.selectHeadEvent codec access streamId = .ok head)
    {x : CanonicalEvent sha}
    (hx : (streamOf all (access.partition.sha256 sha, streamId)).getLast? = some x) : head = some x := by
  obtain ⟨row, hrow, hread⟩ := forall₂_getLast (h.stream _) hx
  have hmem : row ∈ db.events := List.mem_of_mem_filter (List.mem_of_getLast? hrow)
  have hheads := h.sound.heads_eq (access.partition.sha256 sha, streamId)
  rw [hrow, Option.map_some] at hheads
  rw [LedgerDb.selectHeadEvent, hheads] at hhead
  simp only [bind_eq_ok, exists_unit, EventRow.asHead, LedgerDb.headEvent] at hhead
  obtain ⟨_, found, hfound, hrest⟩ := hhead
  cases found with
  | none => cases hrest
  | some e =>
    simp only [bind_eq_ok, exists_unit, pure_eq_ok] at hrest
    obtain ⟨row', hrow', hread'⟩ := selectEventBySha256_eq_some.mp hfound
    have hsha : row'.eventSha256 = row.eventSha256 := by simpa using List.find?_some hrow'
    have hsame : row' = row := List.inj_on_of_nodup_map h.sound.chained.event_sha256s
      (List.mem_of_find?_eq_some hrow') hmem hsha
    rw [hsame, hread, Except.ok.injEq] at hread'
    rw [← hrest.2, hread']

theorem follows_of_parent {p e : CanonicalEvent sha} (hversion : e.streamVersion ≠ 1)
    (h : verifyEventParent e (some p) = .ok ()) : Follows p e := by
  have hfields := h
  rw [verifyEventParent, if_neg hversion] at hfields
  simp only [bind_eq_ok, exists_unit, raiseIf_eq_ok, checkEach_eq_ok, ne_eq, not_not,
    parent_fields_agree] at hfields
  obtain ⟨_, _, _, ⟨hstream, _, hpartition⟩, _⟩ := hfields
  exact (verifyEventParent_iff hversion hstream hpartition).mp h

theorem parent_of_follows {p e : CanonicalEvent sha} (hstream : e.streamId = p.streamId)
    (hpartition : e.partition = p.partition) (h : Follows p e) : verifyEventParent e (some p) = .ok () := by
  have hversion : e.streamVersion ≠ 1 := by
    have := h.version
    have := p.version_bounds
    omega
  exact (verifyEventParent_iff hversion hstream hpartition).mpr h

theorem checkEvents_chain {r : LedgerAppendRequest sha} {version : Nat}
    {previous : Option (CanonicalEvent sha)} {events : List (CanonicalEvent sha)}
    (h : r.checkEvents version previous events = .ok ()) (hversion : previous ≠ none → version ≠ 1)
    (hpositive : 1 ≤ version) :
    events.IsChain Follows ∧ ∀ p ∈ previous, ∀ e ∈ events.head?, Follows p e := by
  induction events generalizing version previous with
  | nil => exact ⟨.nil, by simp⟩
  | cons e events ih =>
    simp only [LedgerAppendRequest.checkEvents, LedgerAppendRequest.checkEvent, bind_eq_ok,
      exists_unit, raiseIf_eq_ok, ne_eq, not_not] at h
    obtain ⟨⟨_, hnumber, _, _, _, _, hparent⟩, hrest⟩ := h
    obtain ⟨hchain, hnext⟩ := ih hrest (fun _ => by omega) (by omega)
    refine ⟨List.isChain_cons.mpr ⟨fun x hx => hnext e rfl x hx, hchain⟩, ?_⟩
    rintro p hp _ ⟨⟩
    cases hp
    rw [verifyEventParentOrInvalid, catching_eq_ok] at hparent
    exact follows_of_parent (by rw [hnumber]; exact hversion (by simp)) hparent

theorem streamOf_append (l m : List (CanonicalEvent sha)) (k : Str × Str) :
    streamOf (l ++ m) k = streamOf l k ++ streamOf m k := by
  rw [streamOf, List.filter_append]
  rfl

-- a batch continues the thread of its stream from the head the append was checked against
theorem Recorded.batch (h : Recorded codec db all) {r : LedgerAppendRequest sha}
    (hcheck : r.check = .ok ()) {head : Option (CanonicalEvent sha)}
    (hhead : db.appendableHead codec r = .ok head) :
    r.events.IsChain Follows ∧
      ∀ x ∈ (streamOf all (r.access.partition.sha256 sha, r.streamId)).getLast?, ∀ y ∈ r.events.head?,
        Follows x y := by
  simp only [LedgerAppendRequest.check, bind_eq_ok, exists_unit] at hcheck
  obtain ⟨_, _, _, hevents, _⟩ := hcheck
  refine ⟨(checkEvents_chain hevents (by simp) (by omega)).1, fun x hx y hy => ?_⟩
  simp only [LedgerDb.appendableHead, bind_eq_ok, exists_unit, pure_eq_ok] at hhead
  obtain ⟨selected, hselected, hextends, rfl⟩ := hhead
  rw [h.headEvent hselected hx, verifyLedgerAppendPrecondition, bind_eq_ok] at hextends
  obtain ⟨_, _, hextends⟩ := hextends
  split at hextends
  · simp [bind_eq_ok] at hextends
  · rename_i hlater
    simp only [bind_eq_ok, exists_unit, extendsHead, Option.mem_def.mp hy, catching_eq_ok] at hextends
    have hversion : y.streamVersion = r.expectedStreamVersion + 1 := by
      cases hr : r.events with
      | nil =>
        rw [hr] at hy
        cases hy
      | cons e events =>
        rw [hr] at hy hevents
        cases hy
        simp only [LedgerAppendRequest.checkEvents, LedgerAppendRequest.checkEvent, bind_eq_ok,
          exists_unit, raiseIf_eq_ok, ne_eq, not_not] at hevents
        exact hevents.1.2.1
    exact follows_of_parent (by omega) hextends.2.1

theorem Recorded.append (h : Recorded codec db all) {c : AppendCall sha} {db' : LedgerDb}
    {commit : LedgerAppendCommit sha} (hrun : appendOnce codec c db = .ok commit db') :
    ∃ more, Recorded codec db' (all ++ more) ∧ ∀ e ∈ more, e ∈ c.events := by
  obtain ⟨hcheck, hrun⟩ := appendOnce_eq_ok.mp hrun
  cases hget : db.idempotency.get? c.request.idempotencyKey with
  | some row =>
    rw [hget] at hrun
    obtain ⟨_, _, _, rfl⟩ := replayAppend_eq_ok.mp hrun
    exact ⟨[], by rwa [List.append_nil], by simp⟩
  | none =>
    rw [hget] at hrun
    obtain ⟨hsound, hretains, _, rows, hevents, hkeys, hreads⟩ := freshAppend_sound h.sound hcheck hrun
    obtain ⟨head, _, _, _, hhead, _⟩ := freshAppend_eq_ok hrun
    obtain ⟨hbatch, hfirst⟩ := h.batch hcheck hhead
    have hold : List.Forall₂ (fun r e => db'.eventFromRow codec r = .ok e) db.events all :=
      ((List.forall₂_and_left _ _).mpr ⟨fun r hr => hr, h.reads⟩).imp
        fun r e hre => hretains.eventFromRow hre.1 hre.2
    have hnew : List.Forall₂ (fun r e => db'.eventFromRow codec r = .ok e) rows c.request.events :=
      hreads.flip
    have hkey : ∀ e ∈ c.request.events, (e.partition.sha256 sha, e.streamId) =
        (c.request.access.partition.sha256 sha, c.request.streamId) := by
      intro e he
      obtain ⟨row, hrow, hread⟩ := exists_of_forall₂ hnew he
      have hmem : row ∈ db'.events := by
        rw [hevents]
        exact List.mem_append_right _ hrow
      rw [← Recorded.key_eq hsound hmem hread, hkeys row hrow]
    refine ⟨c.request.events, ⟨hsound, ?_, fun k => ?_⟩, fun _ he => he⟩
    · rw [hevents]
      exact List.rel_append hold hnew
    · rw [streamOf_append]
      by_cases hk : (c.request.access.partition.sha256 sha, c.request.streamId) = k
      · subst hk
        have hall : streamOf c.request.events (c.request.access.partition.sha256 sha, c.request.streamId) =
            c.request.events := List.filter_eq_self.mpr fun e he => decide_eq_true (hkey e he)
        rw [hall]
        exact List.isChain_append.mpr ⟨h.threads _, hbatch, hfirst⟩
      · have hnone : streamOf c.request.events k = [] :=
          List.filter_eq_nil_iff.mpr fun e he => by
            rw [hkey e he]
            simpa using hk
        rw [hnone, List.append_nil]
        exact h.threads k

theorem Recorded.run (h : Recorded codec db all) (calls : List (AppendCall sha)) :
    ∃ more, Recorded codec (runLedger codec db calls) (all ++ more) ∧
      ∀ e ∈ more, ∃ c ∈ calls, e ∈ c.events := by
  induction calls generalizing db all with
  | nil => exact ⟨[], by rwa [List.append_nil], by simp⟩
  | cons c calls ih =>
    have hstep : ∃ more, Recorded codec (finalState (appendOnce codec c db)) (all ++ more) ∧
        ∀ e ∈ more, e ∈ c.events := by
      cases hrun : appendOnce codec c db with
      | ok commit db' => exact h.append hrun
      | error e db' =>
        rw [atomic_appendOnce c db e db' hrun]
        exact ⟨[], by rwa [List.append_nil], by simp⟩
    obtain ⟨first, hfirst, hnew⟩ := hstep
    obtain ⟨more, hmore, hlater⟩ := ih hfirst
    refine ⟨first ++ more, by rwa [← List.append_assoc], fun e he => ?_⟩
    rcases List.mem_append.mp he with he | he
    · exact ⟨c, by simp, hnew e he⟩
    · obtain ⟨c', hc', he⟩ := hlater e he
      exact ⟨c', List.mem_cons_of_mem _ hc', he⟩

theorem exists_recorded (codec : LedgerCodec sha) (calls : List (AppendCall sha)) :
    ∃ all, Recorded codec (runLedger codec {} calls) all ∧ ∀ e ∈ all, ∃ c ∈ calls, e ∈ c.events := by
  have hempty : Recorded codec {} ([] : List (CanonicalEvent sha)) := recorded_empty
  exact hempty.run calls

theorem apart_of_calls {calls : List (AppendCall sha)} {access : LedgerAccessContext}
    (h : ∀ c ∈ calls, ∀ e ∈ c.events, e.partition = access.partition) :
    (runLedger codec {} calls).Apart sha access := by
  obtain ⟨all, hall, hnew⟩ := exists_recorded codec calls
  intro r hr _
  obtain ⟨e, he, hread⟩ := exists_of_forall₂ hall.reads.flip hr
  obtain ⟨c, hc, hmem⟩ := hnew e he
  rw [eventFromRow_columns hread]
  exact h c hc e hmem

end Events

section Streams

variable {db : LedgerDb} {all : List (CanonicalEvent sha)} {access : LedgerAccessContext} {streamId : Str}

def LedgerAccessContext.shown (access : LedgerAccessContext) (all : List (CanonicalEvent sha))
    (streamId : Str) (fromVersion : Nat) : List (CanonicalEvent sha) :=
  all.filter (fun e => decide (e.partition = access.partition ∧ e.streamId = streamId ∧
    fromVersion ≤ e.streamVersion))

theorem mem_shown {fromVersion : Nat} {e : CanonicalEvent sha} : e ∈ access.shown all streamId fromVersion ↔
    e ∈ all ∧ e.partition = access.partition ∧ e.streamId = streamId ∧ fromVersion ≤ e.streamVersion := by
  simp [LedgerAccessContext.shown]

theorem Recorded.in_partition (h : Recorded codec db all) (hapart : db.Apart sha access) {r : EventRow}
    (hr : r ∈ db.events) {e : CanonicalEvent sha} (he : db.eventFromRow codec r = .ok e) :
    r.partitionSha256 = access.partition.sha256 sha ↔ e.partition = access.partition := by
  have hsame : r.partition = e.partition := by rw [eventFromRow_columns he]
  constructor
  · intro hsha
    rw [← hsame]
    exact hapart r hr hsha
  · intro hpartition
    rw [h.sound.chained.partition_sha256 r hr, hsame, hpartition]

theorem Recorded.shown_zero (h : Recorded codec db all) (hapart : db.Apart sha access) :
    access.shown all streamId 0 = streamOf all (access.partition.sha256 sha, streamId) := by
  apply List.filter_congr
  intro e he
  obtain ⟨r, hr, hread⟩ := exists_of_forall₂ h.reads he
  have hkey := Recorded.key_eq h.sound hr hread
  have hpartition := h.in_partition hapart hr hread
  simp only [rowShape, Prod.mk.injEq] at hkey
  simp only [← hpartition, hkey.1, Prod.mk.injEq, Nat.zero_le, and_true]

theorem Recorded.versions (h : Recorded codec db all) (k : Str × Str) :
    (streamOf all k).map (·.streamVersion) = List.range' 1 (streamOf all k).length := by
  have hgrown : (rowShape.stream db.events k).map (·.streamVersion) =
      List.range' 1 (rowShape.stream db.events k).length := h.sound.chained.grown.versions k
  have hreads := h.stream k
  rw [hreads.length_eq] at hgrown
  rw [← hgrown]
  exact (map_eq_of_reads hreads fun r e hr => by rw [eventFromRow_columns hr]).symm

theorem Recorded.streamRows (h : Recorded codec db all) (hapart : db.Apart sha access) (fromVersion : Nat) :
    List.Forall₂ (fun r e => db.eventFromRow codec r = .ok e)
      (db.streamRows (access.partition.sha256 sha) streamId fromVersion)
      (access.shown all streamId fromVersion) := by
  have hrows : db.events.filter (fun r => decide (r.partitionSha256 = access.partition.sha256 sha ∧
      r.streamId = streamId ∧ fromVersion ≤ r.streamVersion)) =
      (rowShape.stream db.events (access.partition.sha256 sha, streamId)).filter
        (fun r => decide (fromVersion ≤ r.streamVersion)) := by
    rw [LogShape.stream, List.filter_filter]
    apply List.filter_congr
    intro r _
    simp [rowShape, and_comm, and_assoc]
  have hsorted : (db.events.filter (fun r => decide (r.partitionSha256 = access.partition.sha256 sha ∧
      r.streamId = streamId ∧ fromVersion ≤ r.streamVersion))).Pairwise
      (fun a b => decide (a.streamVersion ≤ b.streamVersion) = true) := by
    have hlt : (rowShape.stream db.events (access.partition.sha256 sha, streamId)).Pairwise
        (fun a b => a.streamVersion < b.streamVersion) :=
      LogShape.pairwise_lt_of_range' (h.sound.chained.grown.versions _)
    rw [hrows]
    exact (hlt.sublist List.filter_sublist).imp fun hab => by simpa using Nat.le_of_lt hab
  rw [LedgerDb.streamRows, List.mergeSort_of_pairwise hsorted]
  refine forall₂_filter h.reads fun r hr e he => ?_
  have hpartition := h.in_partition hapart hr he
  have hstream : r.streamId = e.streamId := by rw [eventFromRow_columns he]
  have hversion : r.streamVersion = e.streamVersion := by rw [eventFromRow_columns he]
  simp only [hpartition, hstream, hversion]

theorem Recorded.intact (h : Recorded codec db all) (hapart : db.Apart sha access) :
    StreamIntact codec access streamId db (access.shown all streamId 0) where
  decoded := h.streamRows hapart 0
  versions := by rw [h.shown_zero hapart, h.versions]
  parents := by
    rw [h.shown_zero hapart]
    exact (h.threads _).imp fun _ _ hf => hf.parent
  members e he := ⟨(mem_shown.mp he).2.2.1, (mem_shown.mp he).2.1⟩
  head := by
    rw [h.shown_zero hapart, HeadPoints, h.sound.heads_eq]
    have hreads := h.stream (access.partition.sha256 sha, streamId)
    cases hlast : (streamOf all (access.partition.sha256 sha, streamId)).getLast? with
    | none =>
      rw [List.getLast?_eq_none_iff] at hlast
      rw [hlast, List.forall₂_nil_right_iff] at hreads
      simp [hreads]
    | some e =>
      obtain ⟨r, hr, hread⟩ := forall₂_getLast hreads hlast
      have hversion := h.sound.chained.last_version hr
      have hid : r.eventId = e.eventId := by rw [eventFromRow_columns hread]
      have hsha : r.eventSha256 = e.eventSha256 := by rw [eventFromRow_columns hread]
      rw [hreads.length_eq] at hversion
      simp [hr, EventRow.asHead, StreamHead.names, hversion, hid, hsha]

theorem Recorded.ordered (h : Recorded codec db all) (hapart : db.Apart sha access)
    (hallowed : ∀ e ∈ access.shown all streamId 0, access.classificationFilter.allows e.classification = true) :
    StreamOrdered access (access.shown all streamId 0) := by
  have hthread : (access.shown all streamId 0).IsChain Follows := by
    rw [h.shown_zero hapart]
    exact h.threads _
  exact ⟨hthread.imp fun _ _ hf => hf.position, hthread.imp fun _ _ hf => hf.type,
    hthread.imp fun _ _ hf => hf.recorded, hallowed⟩

def verificationDenied : LedgerError :=
  ⟨.classificationDenied, lit "TBM_EVENT_LEDGER_CLASSIFICATION_DENIED",
    lit "stream classification is not allowed for verification"⟩

theorem walkIssues_hidden {events : List (CanonicalEvent sha)} {index position : Nat}
    {previous : Option (CanonicalEvent sha)} (hchain : events.IsChain Follows)
    (hprevious : ∀ p ∈ previous, ∀ e ∈ events.head?, verifyEventParent e (some p) = .ok ())
    (hmembers : ∀ e ∈ events, e.partition = access.partition ∧ e.streamId = streamId)
    (hhidden : ∃ e ∈ events, access.classificationFilter.allows e.classification = false) :
    walkIssues access streamId index previous position (events.map some) = .error verificationDenied := by
  induction events generalizing index position previous with
  | nil => simp at hhidden
  | cons e events ih =>
    rw [List.map_cons, walkIssues, eventIssues]
    by_cases he : access.classificationFilter.allows e.classification = false
    · rw [raiseIf_of he]
      rfl
    · obtain ⟨issues, hissues⟩ : ∃ issues, parentIssues e index previous = .ok issues := by
        cases previous with
        | none => exact ⟨_, rfl⟩
        | some p => exact ⟨[], parentIssues_some.mpr (hprevious p rfl e rfl)⟩
      obtain ⟨hnext, hchain⟩ := List.isChain_cons.mp hchain
      obtain ⟨hmember, hmembers⟩ := List.forall_mem_cons.mp hmembers
      have hrest : walkIssues access streamId (index + 1) (some e) e.globalPosition (events.map some) =
          .error verificationDenied := by
        refine ih hchain ?_ hmembers ?_
        · rintro _ ⟨⟩ x hx
          have hmem := hmembers x (List.mem_of_head? hx)
          exact parent_of_follows (hmem.2.trans hmember.2.symm) (hmem.1.trans hmember.1.symm) (hnext x hx)
        · obtain ⟨x, hx, hhidden⟩ := hhidden
          rcases List.mem_cons.mp hx with rfl | hx
          · exact absurd hhidden he
          · exact ⟨x, hx, hhidden⟩
      rw [raiseIf_of_not he, hissues, hrest]
      rfl

end Streams

theorem reachable_streams_verify (codec : LedgerCodec sha) (calls : List (AppendCall sha)) {db : LedgerDb}
    (hdb : db = runLedger codec {} calls) : ∃ all, collect (db.eventFromRow codec) db.events = .ok all ∧
    ∀ access : LedgerAccessContext, db.Apart sha access → ∀ streamId, isBoundedIdentifier streamId = true →
      verifyStream codec access streamId db =
        if ∀ e ∈ access.shown all streamId 0, access.classificationFilter.allows e.classification = true then
          .ok (acceptedResult sha access streamId (db.streamRows (access.partition.sha256 sha) streamId 0))
        else .error verificationDenied := by
  subst hdb
  obtain ⟨all, h, _⟩ := exists_recorded codec calls
  refine ⟨all, collect_eq_ok.mpr h.reads, fun access hapart streamId hid => ?_⟩
  have hrequest : (LedgerStreamReadRequest.mk access streamId 1 1).check = .ok () := by
    simp [LedgerStreamReadRequest.check, seq_eq_ok, identifier, positiveCursor, readLimit, hid, eventMaxVersion,
      eventLedgerMaxReadPage]
  have hverify : verifyStream codec access streamId (runLedger codec {} calls) =
      (runLedger codec {} calls).verificationResult codec access streamId := by
    rw [verifyStream, hrequest]
    rfl
  rw [hverify]
  split
  · rename_i hallowed
    exact verificationResult_of_intact hid
      (verificationIssues_eq_nil.mpr ⟨_, h.intact hapart, h.ordered hapart hallowed⟩) (h.intact hapart)
  · rename_i hhidden
    push Not at hhidden
    have hintact : StreamIntact codec access streamId (runLedger codec {} calls)
        (access.shown all streamId 0) := h.intact hapart
    have hdecoded := collect_some.mpr hintact.decoded
    have hchain : (access.shown all streamId 0).IsChain Follows := by
      rw [h.shown_zero hapart]
      exact h.threads _
    have hwalk : walkIssues access streamId 1 none 0 ((access.shown all streamId 0).map some) =
        .error verificationDenied :=
      walkIssues_hidden hchain (by simp) (fun e he => ⟨(mem_shown.mp he).2.1, (mem_shown.mp he).2.2.1⟩)
        (by simpa using hhidden)
    rw [LedgerDb.verificationResult, LedgerDb.verificationIssues, hdecoded]
    show (walkIssues access streamId 1 none 0 _ >>= _) >>= _ = _
    rw [hwalk]
    rfl

theorem sampleCalls_apart {calls : List (AppendCall sampleSha)}
    (h : calls = [sampleCall 0 firstEvent 'a', sampleCall 1 secondEvent 'b']) :
    (runLedger sampleCodec {} calls).Apart sampleSha sampleAccess := by
  refine apart_of_calls fun c hc => ?_
  rw [h] at hc
  rcases List.mem_cons.mp hc with rfl | hc
  · exact List.forall_mem_singleton.mpr rfl
  · rw [List.mem_singleton.mp hc]
    exact List.forall_mem_singleton.mpr rfl

theorem reachable_streams_verify_sample :
    ∃ db all, collect (db.eventFromRow sampleCodec) db.events = .ok all ∧
      verifyStream sampleCodec sampleAccess (lit "stream_1") db =
        if ∀ e ∈ sampleAccess.shown all (lit "stream_1") 0,
            sampleAccess.classificationFilter.allows e.classification = true then
          .ok (acceptedResult sampleSha sampleAccess (lit "stream_1")
            (db.streamRows (sampleAccess.partition.sha256 sampleSha) (lit "stream_1") 0))
        else .error verificationDenied := by
  obtain ⟨all, hall, h⟩ := reachable_streams_verify sampleCodec
    [sampleCall 0 firstEvent 'a', sampleCall 1 secondEvent 'b'] rfl
  exact ⟨_, all, hall, h sampleAccess (sampleCalls_apart rfl) (lit "stream_1") (by decide)⟩

end TraceBackedMemory
