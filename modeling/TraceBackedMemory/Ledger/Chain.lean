import TraceBackedMemory.Ledger.Append

namespace TraceBackedMemory

open Text Raising

variable {sha : Sha256} {codec : LedgerCodec sha}

section Chained

structure HeadOf (sha : Sha256) (k : Str × Str) (rows : List EventRow) (h : StreamHead) : Prop where
  version : h.currentStreamVersion = rows.length
  event_id : h.currentEventId = rows.getLast?.map (·.eventId)
  event_sha256 : h.currentEventSha256 = rowShape.tailDigest rows
  partition : ∀ r ∈ rows, r.partition = h.partition
  partition_sha256 : k.1 = h.partition.sha256 sha

structure Chained (sha : Sha256) (db : LedgerDb) : Prop where
  grown : rowShape.Grown db.events
  position : db.currentGlobalPosition = db.events.length
  heads : ∀ k h, db.streamHeads.get? k = some h → HeadOf sha k (rowShape.stream db.events k) h
  headed : ∀ r ∈ db.events, (db.streamHeads.get? (rowShape.key r)).isSome = true
  event_ids : (db.events.map (·.eventId)).Nodup
  event_sha256s : (db.events.map (·.eventSha256)).Nodup

theorem chained_empty : Chained sha {} :=
  ⟨.nil, rfl, fun _ _ h => (by cases h), fun _ h => (by cases h), List.nodup_nil, List.nodup_nil⟩

theorem Chained.fits_extends {db : LedgerDb} {row : EventRow} {head : StreamHead}
    (h : Chained sha db) (hf : row.Fits db head) : rowShape.Extends db.events row := by
  have hhead := h.heads _ _ hf.at_key
  refine ⟨?_, ?_, ?_⟩
  · show row.globalPosition = _
    rw [← hf.position, h.position]
  · show row.streamVersion = _
    rw [← hf.version, hhead.version]
    rfl
  · show row.previousStreamEventSha256 = _
    rw [← hf.parent, hhead.event_sha256]
    rfl

theorem HeadOf.snoc {k : Str × Str} {rows : List EventRow} {head : StreamHead} {row : EventRow}
    (h : HeadOf sha k rows head) (hv : row.streamVersion = rows.length + 1)
    (hp : row.partition = head.partition) : HeadOf sha k (rows ++ [row]) (head.advanced row) := by
  refine ⟨?_, ?_, ?_, ?_, h.partition_sha256⟩
  · rw [List.length_append, List.length_singleton]
    exact hv
  · simp [StreamHead.advanced]
  · simp [StreamHead.advanced, LogShape.tailDigest, rowShape]
  · intro r hr
    rcases List.mem_append.mp hr with hr | hr
    · exact h.partition r hr
    · rw [List.mem_singleton.mp hr]
      exact hp

theorem Chained.extended {db : LedgerDb} {row : EventRow} {head : StreamHead}
    {artifacts : List ArtifactRow} (h : Chained sha db) (hf : row.Fits db head) :
    Chained sha (db.extended row head artifacts) := by
  have hext := h.fits_extends hf
  have hhead := h.heads _ _ hf.at_key
  refine ⟨h.grown.snoc hext, ?_, ?_, ?_, ?_, ?_⟩
  · show row.globalPosition = (db.events ++ [row]).length
    rw [List.length_append, List.length_singleton]
    exact hext.position
  · intro k g hg
    show HeadOf sha k (rowShape.stream (db.events ++ [row]) k) g
    have hg : (db.streamHeads.set (rowShape.key row) (head.advanced row)).get? k = some g := hg
    by_cases hk : rowShape.key row = k
    · subst hk
      rw [Dict.get?_set_self] at hg
      rw [rowShape.stream_snoc_self, ← Option.some.inj hg]
      exact hhead.snoc hext.version hf.partition.symm
    · rw [Dict.get?_set_of_ne _ _ (Ne.symm hk)] at hg
      rw [rowShape.stream_snoc_of_ne _ hk]
      exact h.heads k g hg
  · intro r hr
    show ((db.streamHeads.set (rowShape.key row) (head.advanced row)).get? _).isSome = true
    by_cases hk : rowShape.key r = rowShape.key row
    · rw [hk, Dict.get?_set_self]
      rfl
    · rw [Dict.get?_set_of_ne _ _ hk]
      rcases List.mem_append.mp hr with hr | hr
      · exact h.headed r hr
      · rw [List.mem_singleton.mp hr] at hk
        exact absurd rfl hk
  · show ((db.events ++ [row]).map (·.eventId)).Nodup
    rw [List.map_append]
    exact List.nodup_append.mpr ⟨h.event_ids, by simp, by
      rintro a ha b hb rfl
      rw [List.map_singleton, List.mem_singleton] at hb
      exact hf.event_id (hb ▸ ha)⟩
  · show ((db.events ++ [row]).map (·.eventSha256)).Nodup
    rw [List.map_append]
    exact List.nodup_append.mpr ⟨h.event_sha256s, by simp, by
      rintro a ha b hb rfl
      rw [List.map_singleton, List.mem_singleton] at hb
      exact hf.event_sha256 (hb ▸ ha)⟩

theorem Chained.stream_eq_nil {db : LedgerDb} (h : Chained sha db) {k : Str × Str}
    (hk : db.streamHeads.get? k = none) : rowShape.stream db.events k = [] := by
  refine List.filter_eq_nil_iff.mpr fun r hr => ?_
  have hsome := h.headed r hr
  simp only [decide_eq_true_eq]
  rintro rfl
  rw [hk] at hsome
  cases hsome

theorem Chained.insertStreamHead {db : LedgerDb} {p : LedgerTenantPartition} {s : Str}
    (h : Chained sha db) (hk : db.streamHeads.get? (p.sha256 sha, s) = none) :
    Chained sha { db with
      streamHeads := db.streamHeads.set (p.sha256 sha, s) ⟨p, 0, none, none⟩ } := by
  refine ⟨h.grown, h.position, ?_, ?_, h.event_ids, h.event_sha256s⟩
  · refine Dict.forall_get?_set ?_ h.heads
    rw [h.stream_eq_nil hk]
    exact ⟨rfl, rfl, rfl, by simp, rfl⟩
  · intro r hr
    have hsome := h.headed r hr
    show ((db.streamHeads.set _ _).get? _).isSome = true
    rw [Dict.get?_set]
    split
    · rfl
    · exact hsome

end Chained

section Batches

theorem mem_artifactRows {e : CanonicalEvent sha} {a : ArtifactRow} (h : a ∈ artifactRows codec e) :
    a.eventId = e.eventId := by
  obtain ⟨p, _, rfl⟩ := List.mem_map.mp h
  rfl

theorem insertEvents_sound {p : Str} {events : List (CanonicalEvent sha)} {db db' : LedgerDb} {u : Unit}
    (hdb : Chained sha db) (h : forEach (insertEvent codec p) events db = .ok u db') :
    Chained sha db' ∧ Retains db db' ∧
      (∀ k, (∀ e ∈ events, k ≠ (p, e.streamId)) →
        db'.streamHeads.get? k = db.streamHeads.get? k) ∧
      ∃ rows, collect (fun e => eventRow codec e p) events = .ok rows ∧
        db'.events = db.events ++ rows := by
  induction events generalizing db with
  | nil =>
    cases h
    exact ⟨hdb, .refl _, fun _ _ => rfl, [], rfl, by simp⟩
  | cons e events ih =>
    obtain ⟨_, t, hfirst, hrest⟩ := run_bind_eq_ok.mp h
    obtain ⟨row, head, hrow, hfits, rfl⟩ := insertEvent_eq_ok hfirst
    have hid : row.eventId = e.eventId := by rw [eventRow_eq_ok hrow]
    have hstep : Retains db (db.extended row head (artifactRows codec e)) :=
      retains_extended hfits fun a ha => (mem_artifactRows ha).trans hid.symm
    obtain ⟨hchained, hretains, hheads, rows, hrows, hevents⟩ := ih (hdb.extended hfits) hrest
    refine ⟨hchained, hstep.trans hretains, fun k hk => ?_, row :: rows, ?_, ?_⟩
    · have hkey : k ≠ (row.partitionSha256, row.streamId) := by
        rw [eventRow_eq_ok hrow]
        exact hk e (by simp)
      rw [hheads k fun e he => hk e (List.mem_cons_of_mem _ he)]
      exact Dict.get?_set_of_ne _ _ hkey
    · rw [collect_eq_ok] at hrows ⊢
      exact .cons hrow hrows
    · rw [hevents]
      simp [LedgerDb.extended]

end Batches

section Soundness

structure LedgerSound (codec : LedgerCodec sha) (db : LedgerDb) : Prop where
  chained : Chained sha db
  occupied : ∀ k h, db.streamHeads.get? k = some h → rowShape.stream db.events k ≠ []
  readable : ∀ row ∈ db.events, ∃ e, db.eventFromRow codec row = .ok e

theorem ledgerSound_empty : LedgerSound codec {} :=
  ⟨chained_empty, fun _ _ h => (by cases h), fun _ h => (by cases h)⟩

structure Committed (codec : LedgerCodec sha) (r : LedgerAppendRequest sha)
    (receipt : LedgerAppendReceipt sha) (db : LedgerDb) : Prop where
  retained : ∃ row, db.idempotency.get? r.idempotencyKey = some row ∧
    row.commandSha256 = r.idempotency.commandSha256 ∧ row.requestSha256 = r.requestSha256 ∧
    db.verifiedReceipt codec r row = .ok receipt

theorem Committed.mono {r : LedgerAppendRequest sha} {receipt : LedgerAppendReceipt sha}
    {db db' : LedgerDb} (h : Committed codec r receipt db) (hr : Retains db db') :
    Committed codec r receipt db' := by
  obtain ⟨row, hrow, hcommand, hrequest, hreceipt⟩ := h.retained
  exact ⟨row, hr.idempotency _ _ hrow, hcommand, hrequest, hr.verifiedReceipt hreceipt⟩

theorem verifiedReceipt_events {db : LedgerDb} {r : LedgerAppendRequest sha} {row : IdempotencyRow}
    {receipt : LedgerAppendReceipt sha} (h : db.verifiedReceipt codec r row = .ok receipt) :
    receipt.events = r.events ∧
      ∀ e ∈ receipt.events, db.selectEventBySha256 codec e.eventSha256 = .ok (some e) := by
  simp only [LedgerDb.verifiedReceipt, LedgerDb.receiptFromIdempotencyRow,
    verifyLedgerAppendReceipt, bind_eq_ok, exists_unit, raiseIf_eq_ok, pure_eq_ok,
    catching_eq_ok] at h
  obtain ⟨retained, ⟨_, events, hevents, _, rfl⟩, hmatch, rfl⟩ := h
  simp only [LedgerAppendReceipt.mismatch, not_or, ne_eq, Decidable.not_not] at hmatch
  obtain ⟨_, _, _, _, _, _, hsame, _, _⟩ := hmatch
  refine ⟨hsame, fun e he => ?_⟩
  obtain ⟨s, hs, hse⟩ := collect_mem hevents he
  rw [retainedEvent_eq_ok] at hse
  obtain ⟨found, hfind, hdecode⟩ := selectEventBySha256_eq_some.mp hse
  have hsha : found.eventSha256 = s := by simpa using List.find?_some hfind
  have hcolumns : found.eventSha256 = e.eventSha256 := by rw [eventFromRow_columns hdecode]
  rw [← hcolumns, hsha]
  exact hse

theorem checkEvents_stream {r : LedgerAppendRequest sha} {version : Nat}
    {previous : Option (CanonicalEvent sha)} {events : List (CanonicalEvent sha)}
    (h : r.checkEvents version previous events = .ok ()) : ∀ e ∈ events, e.streamId = r.streamId := by
  induction events generalizing version previous with
  | nil => simp
  | cons e events ih =>
    simp only [LedgerAppendRequest.checkEvents, LedgerAppendRequest.checkEvent, bind_eq_ok,
      exists_unit, raiseIf_eq_ok, ne_eq, Decidable.not_not] at h
    obtain ⟨⟨hstream, _⟩, hrest⟩ := h
    exact List.forall_mem_cons.mpr ⟨hstream, ih hrest⟩

theorem check_events {r : LedgerAppendRequest sha} (h : r.check = .ok ()) :
    r.events ≠ [] ∧ ∀ e ∈ r.events, e.streamId = r.streamId := by
  simp only [LedgerAppendRequest.check, bind_eq_ok, exists_unit, raiseIf_eq_ok,
    Decidable.not_not] at h
  obtain ⟨_, _, hlen, hevents, _⟩ := h
  refine ⟨?_, checkEvents_stream hevents⟩
  intro hnil
  rw [hnil] at hlen
  simp at hlen

theorem collect_ne_nil {α β : Type} {f : α → Except LedgerError β} {l : List α} {bs : List β}
    (h : collect f l = .ok bs) (hl : l ≠ []) : bs ≠ [] := by
  rw [collect_eq_ok] at h
  rintro rfl
  exact hl (List.forall₂_nil_right_iff.mp h)

theorem rows_key {r : LedgerAppendRequest sha} {rows : List EventRow} {p : Str}
    (hr : ∀ e ∈ r.events, e.streamId = r.streamId)
    (hrows : collect (fun e => eventRow codec e p) r.events = .ok rows) :
    ∀ row ∈ rows, rowShape.key row = (p, r.streamId) := by
  intro row hrow
  obtain ⟨e, he, heq⟩ := collect_mem hrows hrow
  rw [eventRow_eq_ok heq]
  exact congrArg _ (hr e he)

theorem occupied_append {db db' : LedgerDb} {k : Str × Str} {rows : List EventRow}
    (h : ∀ j g, db.streamHeads.get? j = some g → rowShape.stream db.events j ≠ [])
    (hheads : ∀ j, j ≠ k → db'.streamHeads.get? j = db.streamHeads.get? j)
    (hevents : db'.events = db.events ++ rows) (hne : rows ≠ [])
    (hkey : ∀ row ∈ rows, rowShape.key row = k) :
    ∀ j g, db'.streamHeads.get? j = some g → rowShape.stream db'.events j ≠ [] := by
  intro j g hg
  rw [hevents, rowShape.stream_append]
  by_cases hj : j = k
  · subst hj
    obtain ⟨row, rest, rfl⟩ := List.exists_cons_of_ne_nil hne
    have hrow := hkey row (by simp)
    simp [LogShape.stream, hrow]
  · rw [hheads j hj] at hg
    simp [h j g hg]

theorem ensureStreamHead_sound {r : LedgerAppendRequest sha} {head : Option (CanonicalEvent sha)}
    {db db' : LedgerDb} {u : Unit} (hdb : Chained sha db)
    (h : ensureStreamHead r head db = .ok u db') :
    Chained sha db' ∧ Retains db db' ∧ db'.events = db.events ∧
      ∀ k, k ≠ (r.access.partition.sha256 sha, r.streamId) →
        db'.streamHeads.get? k = db.streamHeads.get? k := by
  rcases ensureStreamHead_eq_ok h with rfl | ⟨hnone, rfl⟩
  · exact ⟨hdb, .refl _, rfl, fun _ _ => rfl⟩
  · refine ⟨hdb.insertStreamHead hnone, ⟨List.prefix_refl _, fun _ _ => rfl, fun _ _ hk => hk⟩, rfl,
      fun k hk => ?_⟩
    exact Dict.get?_set_of_ne _ _ hk

theorem retains_insertIdempotency {db : LedgerDb} {key : Str × Str} (row : IdempotencyRow)
    (hnone : db.idempotency.get? key = none) :
    Retains db { db with idempotency := db.idempotency.set key row } := by
  refine ⟨List.prefix_refl _, fun _ _ => rfl, fun k old hk => ?_⟩
  have hne : k ≠ key := by
    rintro rfl
    rw [hnone] at hk
    cases hk
  show (db.idempotency.set key row).get? k = some old
  rw [Dict.get?_set_of_ne _ _ hne, hk]

theorem appended_reads {db : LedgerDb} {r : LedgerAppendRequest sha} {p : Str}
    {rows : List EventRow} {entry : IdempotencyRow} {receipt : LedgerAppendReceipt sha}
    (hdb : Chained sha db) (hrows : collect (fun e => eventRow codec e p) r.events = .ok rows)
    (hmem : ∀ row ∈ rows, row ∈ db.events)
    (hreceipt : db.verifiedReceipt codec r entry = .ok receipt) :
    List.Forall₂ (fun e row => db.eventFromRow codec row = .ok e) r.events rows := by
  obtain ⟨hevents, hselect⟩ := verifiedReceipt_events hreceipt
  rw [hevents] at hselect
  rw [collect_eq_ok] at hrows
  generalize r.events = events at hselect hrows
  induction hrows with
  | nil => exact .nil
  | @cons e row events rows hrow _ ih =>
    refine .cons ?_ (ih (fun x hx => hmem x (List.mem_cons_of_mem _ hx))
      fun x hx => hselect x (List.mem_cons_of_mem _ hx))
    obtain ⟨found, hfind, hdecode⟩ := selectEventBySha256_eq_some.mp (hselect e (by simp))
    have hsha : found.eventSha256 = row.eventSha256 := by
      rw [eventRow_eq_ok hrow]
      simpa using List.find?_some hfind
    have hsame : found = row :=
      List.inj_on_of_nodup_map hdb.event_sha256s (List.mem_of_find?_eq_some hfind)
        (hmem row (by simp)) hsha
    exact hsame ▸ hdecode

theorem freshAppend_eq_ok {r : LedgerAppendRequest sha} {db db' : LedgerDb}
    {c : LedgerAppendCommit sha} (h : freshAppend codec r db = .ok c db') :
    ∃ head db₁ db₂ receipt, db.appendableHead codec r = .ok head ∧
      ensureStreamHead r head db = .ok () db₁ ∧
      forEach (insertEvent codec (r.access.partition.sha256 sha)) r.events db₁ = .ok () db₂ ∧
      db₂.idempotency.get? r.idempotencyKey = none ∧
      db' = { db₂ with
        idempotency := db₂.idempotency.set r.idempotencyKey (idempotencyRow r receipt) } ∧
      db'.verifiedReceipt codec r (idempotencyRow r receipt) = .ok c.receipt := by
  simp only [freshAppend, run_bind_eq_ok, run_inspect_eq_ok, bind_eq_ok, demand_eq_ok,
    pure_eq_ok] at h
  obtain ⟨head, _, ⟨hhead, rfl⟩, _, db₁, hensure, _, db₂, hinsert, receipt, _, ⟨_, rfl⟩, _, db₃, hidem,
    ⟨row, hrow, retained, hretained, rfl⟩, rfl⟩ := h
  obtain ⟨hnone, rfl⟩ := insertIdempotency_eq_ok hidem
  have hself := Dict.get?_set_self db₂.idempotency r.idempotencyKey (idempotencyRow r receipt)
  have hentry : row = idempotencyRow r receipt := Option.some.inj (hrow.symm.trans hself)
  rw [hentry] at hretained
  exact ⟨head, db₁, db₂, receipt, hhead, hensure, hinsert, hnone, rfl, hretained⟩

theorem Chained.with_idempotency {db : LedgerDb} (h : Chained sha db)
    (entries : Dict (Str × Str) IdempotencyRow) : Chained sha { db with idempotency := entries } :=
  ⟨h.grown, h.position, h.heads, h.headed, h.event_ids, h.event_sha256s⟩

theorem freshAppend_sound {r : LedgerAppendRequest sha} {db db' : LedgerDb}
    {c : LedgerAppendCommit sha} (hdb : LedgerSound codec db) (hcheck : r.check = .ok ())
    (h : freshAppend codec r db = .ok c db') :
    LedgerSound codec db' ∧ Retains db db' ∧ Committed codec r c.receipt db' ∧
      ∃ rows, db'.events = db.events ++ rows ∧
        (∀ row ∈ rows, rowShape.key row = (r.access.partition.sha256 sha, r.streamId)) ∧
        List.Forall₂ (fun e row => db'.eventFromRow codec row = .ok e) r.events rows := by
  obtain ⟨head, db₁, db₂, receipt, _, hensure, hinsert, hnone, rfl, hretained⟩ := freshAppend_eq_ok h
  obtain ⟨hchained₁, hretains₁, hevents₁, hheads₁⟩ := ensureStreamHead_sound hdb.chained hensure
  obtain ⟨hchained₂, hretains₂, hheads₂, rows, hrows, hevents₂⟩ := insertEvents_sound hchained₁ hinsert
  obtain ⟨hne, hstream⟩ := check_events hcheck
  rw [hevents₁] at hevents₂
  have hretains := (hretains₁.trans hretains₂).trans
    (retains_insertIdempotency (idempotencyRow r receipt) hnone)
  have hheads : ∀ k, k ≠ (r.access.partition.sha256 sha, r.streamId) →
      db₂.streamHeads.get? k = db.streamHeads.get? k := by
    intro k hk
    rw [hheads₂ k fun e he => by rw [hstream e he]; exact hk, hheads₁ k hk]
  have hchained := hchained₂.with_idempotency
    (db₂.idempotency.set r.idempotencyKey (idempotencyRow r receipt))
  have hmem : ∀ row ∈ rows, row ∈ db₂.events := by
    intro row hrow
    rw [hevents₂]
    exact List.mem_append_right _ hrow
  have hreads := appended_reads hchained hrows hmem hretained
  refine ⟨⟨hchained, ?_, ?_⟩, hretains, ⟨_, Dict.get?_set_self _ _ _, rfl, rfl, hretained⟩, rows,
    hevents₂, rows_key hstream hrows, hreads⟩
  · exact occupied_append hdb.occupied hheads hevents₂ (collect_ne_nil hrows hne)
      (rows_key hstream hrows)
  · intro event hevent
    have hevent : event ∈ db.events ++ rows := hevents₂ ▸ hevent
    rcases List.mem_append.mp hevent with hold | hnew
    · obtain ⟨e, he⟩ := hdb.readable event hold
      exact ⟨e, hretains.eventFromRow hold he⟩
    · obtain ⟨e, _, he⟩ := exists_of_forall₂ hreads hnew
      exact ⟨e, he⟩

theorem transaction_eq_ok {α : Type} {m : LedgerOp α} {db db' : LedgerDb} {a : α} :
    transaction m db = .ok a db' ↔ m db = .ok a db' := by
  unfold transaction
  cases m db <;> simp

theorem persisting_eq_ok {α : Type} {message : Str} {m : LedgerOp α} {db db' : LedgerDb} {a : α} :
    persisting message m db = .ok a db' ↔ m db = .ok a db' := by
  unfold persisting
  cases m db <;> simp

theorem atomic_persisting_transaction {α : Type} (message : Str) (m : LedgerOp α) :
    Atomic (persisting message (transaction m)) := by
  intro db e db' h
  unfold persisting transaction at h
  cases hm : m db with
  | ok a t =>
    rw [hm] at h
    cases h
  | error x t =>
    rw [hm] at h
    cases h
    rfl

theorem atomic_appendOnce (c : AppendCall sha) : Atomic (appendOnce codec c) :=
  atomic_inspect_bind fun _ => atomic_persisting_transaction _ _

theorem appendOnce_eq_ok {c : AppendCall sha} {db db' : LedgerDb} {commit : LedgerAppendCommit sha} :
    appendOnce codec c db = .ok commit db' ↔ c.request.check = .ok () ∧
      match db.idempotency.get? c.request.idempotencyKey with
      | some row => replayAppend codec c.request row db = .ok commit db'
      | none => freshAppend codec c.request db = .ok commit db' := by
  simp only [appendOnce, appendInTransaction, run_bind_eq_ok, run_inspect_eq_ok, persisting_eq_ok,
    transaction_eq_ok, raiseIf_eq_ok]
  constructor
  · rintro ⟨_, _, ⟨hcheck, rfl⟩, _, _, ⟨_, rfl⟩, retained, _, ⟨hget, rfl⟩, h⟩
    rw [Except.ok.inj hget]
    refine ⟨hcheck, ?_⟩
    cases retained <;> exact h
  · rintro ⟨hcheck, h⟩
    refine ⟨(), db, ⟨hcheck, rfl⟩, (), db, ⟨by simp [AppendCall.request], rfl⟩, _, db, ⟨rfl, rfl⟩, ?_⟩
    cases hget : db.idempotency.get? c.request.idempotencyKey <;> rw [hget] at h <;> exact h

theorem replayAppend_eq_ok {r : LedgerAppendRequest sha} {row : IdempotencyRow} {db db' : LedgerDb}
    {commit : LedgerAppendCommit sha} :
    replayAppend codec r row db = .ok commit db' ↔
      row.commandSha256 = r.idempotency.commandSha256 ∧ row.requestSha256 = r.requestSha256 ∧
        (∃ receipt, db.verifiedReceipt codec r row = .ok receipt ∧ commit = ⟨receipt, false⟩) ∧
        db' = db := by
  simp only [replayAppend, run_inspect_eq_ok, bind_eq_ok, exists_unit, raiseIf_eq_ok, pure_eq_ok,
    not_or, ne_eq, Decidable.not_not]
  constructor
  · rintro ⟨⟨⟨hcommand, hrequest⟩, receipt, hreceipt, rfl⟩, rfl⟩
    exact ⟨hcommand, hrequest, ⟨receipt, hreceipt, rfl⟩, rfl⟩
  · rintro ⟨hcommand, hrequest, ⟨receipt, hreceipt, rfl⟩, rfl⟩
    exact ⟨⟨⟨hcommand, hrequest⟩, receipt, hreceipt, rfl⟩, rfl⟩

theorem appendOnce_sound {c : AppendCall sha} {db db' : LedgerDb} {commit : LedgerAppendCommit sha}
    (hdb : LedgerSound codec db) (h : appendOnce codec c db = .ok commit db') :
    LedgerSound codec db' ∧ Retains db db' ∧ Committed codec c.request commit.receipt db' := by
  obtain ⟨hcheck, h⟩ := appendOnce_eq_ok.mp h
  cases hget : db.idempotency.get? c.request.idempotencyKey with
  | none =>
    rw [hget] at h
    obtain ⟨hsound, hretains, hcommitted, _⟩ := freshAppend_sound hdb hcheck h
    exact ⟨hsound, hretains, hcommitted⟩
  | some row =>
    rw [hget] at h
    obtain ⟨hcommand, hrequest, ⟨receipt, hreceipt, rfl⟩, rfl⟩ := replayAppend_eq_ok.mp h
    exact ⟨hdb, .refl _, ⟨row, hget, hcommand, hrequest, hreceipt⟩⟩

theorem stepLedger_sound {c : AppendCall sha} {db : LedgerDb} (hdb : LedgerSound codec db) :
    LedgerSound codec (finalState (appendOnce codec c db)) ∧
      Retains db (finalState (appendOnce codec c db)) := by
  cases h : appendOnce codec c db with
  | ok commit db' =>
    obtain ⟨hsound, hretains, _⟩ := appendOnce_sound hdb h
    exact ⟨hsound, hretains⟩
  | error e db' =>
    rw [atomic_appendOnce c db e db' h]
    exact ⟨hdb, .refl _⟩

theorem runLedger_sound {db : LedgerDb} (hdb : LedgerSound codec db) (calls : List (AppendCall sha)) :
    LedgerSound codec (runLedger codec db calls) ∧ Retains db (runLedger codec db calls) := by
  induction calls generalizing db with
  | nil => exact ⟨hdb, .refl _⟩
  | cons c calls ih =>
    obtain ⟨hstep, hretains⟩ := stepLedger_sound (c := c) hdb
    obtain ⟨hsound, hlater⟩ := ih hstep
    exact ⟨hsound, hretains.trans hlater⟩

end Soundness

end TraceBackedMemory
