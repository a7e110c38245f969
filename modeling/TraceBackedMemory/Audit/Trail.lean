import Mathlib.Data.List.Chain
import TraceBackedMemory.Foundation.ChainedLog
import TraceBackedMemory.Foundation.Paging
import TraceBackedMemory.Audit.Store
import TraceBackedMemory.Publication.Steps

namespace TraceBackedMemory

open Text Raising OrderBy Json

namespace Audit

open EventContract (TextHash)

open Migration (keyed keyed_eq_some keyed_eq_none)

open Authorization (mapError_eq_ok)

variable {hash : TextHash} {codec : FloatCodec}

section Chains

def shape : LogShape (Event hash codec) Str Str :=
  ⟨fun e => e.streamId, fun e => e.sequence, fun e => e.sequence, fun e => e.eventId, fun e => e.previousEventId⟩

def Follows (p e : Event hash codec) : Prop :=
  verifyAuditEventParent e.toAuditEvent (some p.toAuditEvent) = .ok ()

def Begins (e : Event hash codec) : Prop := e.sequence = 1 ∧ e.previousEventId = none

structure Chain (l : List (Event hash codec)) : Prop where
  begins : ∀ e ∈ l.head?, Begins e
  follows : l.IsChain Follows

variable {l : List (Event hash codec)}

theorem Chain.concat (h : Chain l) {e : Event hash codec} (hfirst : l = [] → Begins e)
    (hnext : ∀ p ∈ l.getLast?, Follows p e) : Chain (l ++ [e]) := by
  constructor
  · cases l with
    | nil =>
      intro f hf
      cases hf
      exact hfirst rfl
    | cons a l => exact h.begins
  · rw [List.isChain_append]
    refine ⟨h.follows, List.isChain_singleton e, fun p hp f hf => ?_⟩
    cases hf
    exact hnext p hp

theorem Chain.of_concat {e : Event hash codec} (h : Chain (l ++ [e])) :
    Chain l ∧ (l = [] → Begins e) ∧ ∀ p ∈ l.getLast?, Follows p e := by
  obtain ⟨hbegins, hfollows⟩ := h
  rw [List.isChain_append] at hfollows
  obtain ⟨hl, -, hlast⟩ := hfollows
  refine ⟨⟨?_, hl⟩, ?_, fun p hp => hlast p hp e rfl⟩
  · cases l with
    | nil => simp
    | cons a l => exact hbegins
  · rintro rfl
    exact hbegins e rfl

-- induction on the stream from its end: an event repeats or advances what its parent holds
theorem Chain.sequences (h : Chain l) : l.map (fun e => e.sequence) = List.range' 1 l.length := by
  induction l using List.reverseRecOn with
  | nil => rfl
  | append_singleton l e ih =>
    obtain ⟨hl, hfirst, hnext⟩ := h.of_concat
    have hsequence : e.sequence = l.length + 1 := by
      cases hlast : l.getLast? with
      | none =>
        have hnil := List.getLast?_eq_none_iff.mp hlast
        rw [hnil]
        exact (hfirst hnil).1
      | some p =>
        obtain ⟨-, -, hstep, -⟩ := verifyAuditEventParent_eq_ok.mp (hnext p hlast)
        obtain ⟨front, rfl⟩ := List.getLast?_eq_some_iff.mp hlast
        have hp := ih hl
        rw [List.map_append, List.length_append, List.length_singleton, LogShape.range'_snoc] at hp
        have hp : p.sequence = front.length + 1 := by simpa using (List.append_inj' hp rfl).2
        rw [hstep, hp, List.length_append, List.length_singleton]
    rw [List.map_append, ih hl, List.length_append, List.length_singleton, LogShape.range'_snoc]
    simp [hsequence]

theorem Chain.linked (h : Chain l) : shape.Linked none l := by
  induction l using List.reverseRecOn with
  | nil => trivial
  | append_singleton l e ih =>
    obtain ⟨hl, hfirst, hnext⟩ := h.of_concat
    rw [LogShape.linked_snoc]
    refine ⟨ih hl, ?_⟩
    cases hlast : l.getLast? with
    | none =>
      have hroot := (hfirst (List.getLast?_eq_none_iff.mp hlast)).2
      simpa [shape, LogShape.tailDigest, hlast] using hroot
    | some p =>
      obtain ⟨-, hparent, -⟩ := verifyAuditEventParent_eq_ok.mp (hnext p hlast)
      simpa [shape, LogShape.tailDigest, hlast] using hparent

theorem Chain.last (h : Chain l) :
    ∀ p ∈ l.getLast?, ∀ e ∈ l, e.identity = p.identity ∧ e.instant ≤ p.instant := by
  induction l using List.reverseRecOn with
  | nil => simp
  | append_singleton l e ih =>
    obtain ⟨hl, -, hnext⟩ := h.of_concat
    intro p hp f hf
    rw [List.getLast?_concat, Option.mem_def, Option.some.injEq] at hp
    subst hp
    rcases List.mem_append.mp hf with hf | hf
    · obtain ⟨q, hq⟩ : ∃ q, l.getLast? = some q := ⟨_, List.getLast?_eq_some_getLast (List.ne_nil_of_mem hf)⟩
      obtain ⟨-, -, -, -, ht, hr, hs, hc, hn, htime⟩ := verifyAuditEventParent_eq_ok.mp (hnext q hq)
      obtain ⟨hsame, hle⟩ := ih hl q hq f hf
      refine ⟨?_, hle.trans htime⟩
      rw [hsame]
      simp [AuditEvent.identity, ht, hr, hs, hc, hn]
    · rw [List.mem_singleton.mp hf]
      exact ⟨rfl, le_refl _⟩

theorem Chain.sameIdentity (h : Chain l) : ∀ e ∈ l, ∀ f ∈ l, e.identity = f.identity := by
  intro e he f hf
  obtain ⟨p, hp⟩ : ∃ p, l.getLast? = some p := ⟨_, List.getLast?_eq_some_getLast (List.ne_nil_of_mem he)⟩
  exact ((h.last p hp e he).1).trans ((h.last p hp f hf).1).symm

theorem Chain.ordered (h : Chain l) : l.Pairwise (fun a b => a.instant ≤ b.instant) := by
  induction l using List.reverseRecOn with
  | nil => exact .nil
  | append_singleton l e ih =>
    rw [List.pairwise_append]
    refine ⟨ih h.of_concat.1, List.pairwise_singleton _ _, fun a ha b hb => ?_⟩
    rw [List.mem_singleton.mp hb]
    exact (h.last e List.getLast?_concat a (List.mem_append_left _ ha)).2

theorem filter_after {α : Type} {f : α → Nat} (n : Nat) {l : List α} {k : Nat} (h : l.map f = List.range' k l.length) :
    l.filter (fun a => decide (n < f a)) = l.drop (n + 1 - k) := by
  induction l generalizing k with
  | nil => simp
  | cons a l ih =>
    rw [List.map_cons, List.length_cons, List.range'_succ, List.cons.injEq] at h
    obtain ⟨ha, hl⟩ := h
    by_cases hn : n < k
    · have hall : ∀ b ∈ l, n < f b := by
        intro b hb
        have hmem : f b ∈ List.range' (k + 1) l.length := hl ▸ List.mem_map_of_mem hb
        rw [List.mem_range'_1] at hmem
        omega
      have hzero : n + 1 - k = 0 := by omega
      rw [hzero, List.drop_zero, List.filter_eq_self]
      intro b hb
      rcases List.mem_cons.mp hb with rfl | hb
      · simpa [ha] using hn
      · simpa using hall b hb
    · have hsucc : n + 1 - k = (n + 1 - (k + 1)) + 1 := by omega
      rw [List.filter_cons_of_neg (by simpa [ha] using hn), ih hl, hsucc, List.drop_succ_cons]

theorem Chain.after (h : Chain l) (n : Nat) : l.filter (fun e => decide (n < e.sequence)) = l.drop n := by
  have hdrop := filter_after n h.sequences
  simpa using hdrop

theorem Chain.sequence_getElem (h : Chain l) {i : Nat} (hi : i < l.length) : l[i].sequence = i + 1 := by
  have hlength : i < (l.map (fun e => e.sequence)).length := by rwa [List.length_map]
  have hmap : (l.map (fun e => e.sequence))[i] = 1 + i := by
    simp only [h.sequences, List.getElem_range', one_mul]
  rw [List.getElem_map] at hmap
  omega

end Chains

section Invariant

variable (db : AuditDb hash codec)

def trail (streamId : Str) : List (Event hash codec) := shape.stream db.events streamId

def headOf (e : Event hash codec) : AuditStreamHead :=
  ⟨e.streamId, e.toAuditEvent.identity, e.sequence, e.eventId⟩

def rowOf (e : Event hash codec) : HeadRow := ⟨e.streamId, e.toAuditEvent.identity, e.sequence, some e.eventId⟩

structure Chained : Prop where
  chains : ∀ streamId, Chain (trail db streamId)
  heads : ∀ streamId, db.heads.get? streamId = (trail db streamId).getLast?.map rowOf
  ids : (db.events.map (fun e => e.eventId)).Nodup

structure Matched : Prop where
  recoveryIds : (db.recoveries.map (fun row => row.recovery.recoveryActionId)).Nodup
  evidence : ∀ row ∈ db.recoveries, ∃ e ∈ db.events, row.eventId = e.eventId ∧
    validateRecoveryEvent row.recovery.toRecoveryAction e.toAuditEvent = .ok ()
  recorded : ∀ e ∈ db.events, e.eventType.recovers → ∃ row ∈ db.recoveries, row.eventId = e.eventId

structure Kept : Prop where
  chained : Chained db
  matched : Matched db

variable {db}

theorem kept_empty : Kept (AuditDb.empty hash codec) := by
  refine ⟨⟨fun streamId => ?_, fun streamId => rfl, List.nodup_nil⟩, ⟨List.nodup_nil, ?_, ?_⟩⟩
  · exact ⟨by simp [trail, LogShape.stream, AuditDb.empty], by simp [trail, LogShape.stream, AuditDb.empty]⟩
  · intro row hrow
    cases hrow
  · intro e he
    cases he

theorem mem_trail {streamId : Str} {e : Event hash codec} :
    e ∈ trail db streamId ↔ e ∈ db.events ∧ e.streamId = streamId := by
  rw [trail, LogShape.stream, List.mem_filter]
  exact and_congr_right fun _ => decide_eq_true_iff

theorem event?_eq_some (h : Chained db) {id : Str} {e : Event hash codec} :
    db.event? id = some e ↔ e ∈ db.events ∧ e.eventId = id :=
  keyed_eq_some h.ids

theorem headFromRow_rowOf (e : Event hash codec) : headFromRow (rowOf e) = .ok (headOf e) := by
  have hsound := e.sound
  have hnames : ¬∃ f ∈ identityNames e.streamId e.toAuditEvent.identity, Outbox.boundedText 128 f.2 = false := by
    rintro ⟨f, hf, hbad⟩
    have hmem : f.2 ∈ [e.streamId, e.tenantId, e.repositoryId, e.sessionId, e.traceId, e.runId] := by
      have hmap := List.mem_map_of_mem (f := Prod.snd) hf
      simpa [identityNames, AuditEvent.identity] using hmap
    rw [hsound.identified f.2 hmem] at hbad
    cases hbad
  have hshape : ¬(e.sequence < 1 ∨ auditMaxSequence < e.sequence ∨ isEventId e.eventId = false) := by
    have hbounds := hsound.bounded
    have hid := hsound.id
    rw [hid]
    simp only [Bool.true_eq_false, or_false]
    omega
  simp only [headFromRow, rowOf, bind_eq_ok, demand_eq_ok, Option.some.injEq, exists_eq_left', exists_unit,
    pure_eq_ok]
  exact ⟨raiseIf_of_not hshape, raiseIf_of_not hnames, rfl⟩

theorem selectHead_eq (h : Chained db) (streamId : Str) :
    selectHead db streamId = .ok ((trail db streamId).getLast?.map headOf) := by
  rw [selectHead, h.heads streamId]
  cases hlast : (trail db streamId).getLast? with
  | none => rfl
  | some p =>
    have hmem := (mem_trail.mp (List.mem_of_getLast? hlast)).1
    have hfound : db.event? p.eventId = some p := (event?_eq_some h).mpr ⟨hmem, rfl⟩
    have hcurrent : ∃ e ∈ db.event? (headOf p).currentEventId, (headOf p).matchesEvent e.toAuditEvent :=
      ⟨p, hfound, rfl, rfl, rfl⟩
    show (headFromRow (rowOf p) >>= _) = _
    rw [headFromRow_rowOf]
    simp only [Option.map_some, bind_eq_ok, Except.ok.injEq, exists_eq_left', exists_unit, raiseIf_eq_ok,
      not_not, pure_eq_ok, and_true]
    exact hcurrent

end Invariant

section Writing

variable {db db' : AuditDb hash codec} {e : Event hash codec} {inserted : Bool}

-- what an event that was not there adds
structure Written (db : AuditDb hash codec) (e : Event hash codec) (db' : AuditDb hash codec) : Prop where
  fresh : e.eventId ∉ db.events.map (fun e => e.eventId)
  first : trail db e.streamId = [] → Begins e
  next : ∀ p ∈ (trail db e.streamId).getLast?, Follows p e
  events : db'.events = db.events ++ [e]
  heads : ∀ streamId, db'.heads.get? streamId = if streamId = e.streamId then some (rowOf e) else db.heads.get? streamId
  recoveries : db'.recoveries = db.recoveries

theorem insertEvent_eq_ok (h : insertEvent db e = .ok db') : db' = { db with events := db.events ++ [e] } := by
  simp only [insertEvent, bind_eq_ok, exists_unit, raiseIf_eq_ok, pure_eq_ok] at h
  obtain ⟨-, -, -, rfl⟩ := h
  rfl

theorem advanceHead_eq_ok {n : Nat} {id : Option Str} (h : advanceHead db e n id = .ok db') :
    ∃ row, db.heads.get? e.streamId = some row ∧
      db' = { db with heads := db.heads.set e.streamId (row.advanced e.toAuditEvent) } := by
  simp only [advanceHead, bind_eq_ok, demand_eq_ok, exists_unit, raiseIf_eq_ok, pure_eq_ok] at h
  obtain ⟨row, hrow, -, rfl⟩ := h
  exact ⟨row, hrow, rfl⟩

-- the head that the event finds is the one that its stream's last event left
theorem openStream_eq_ok (h : Chained db) {opened : AuditDb hash codec × Nat × Option Str}
    (ho : openStream db e ((trail db e.streamId).getLast?.map headOf) = .ok opened) :
    (trail db e.streamId = [] → Begins e) ∧ (∀ p ∈ (trail db e.streamId).getLast?, Follows p e) ∧
      opened.1.events = db.events ∧ opened.1.recoveries = db.recoveries ∧
      ∃ row, (∀ streamId, opened.1.heads.get? streamId =
        if streamId = e.streamId then some row else db.heads.get? streamId) ∧
        row.advanced e.toAuditEvent = rowOf e := by
  cases hlast : (trail db e.streamId).getLast? with
  | none =>
    rw [hlast] at ho
    simp only [Option.map_none, openStream, bind_eq_ok, exists_unit, raiseIf_eq_ok, pure_eq_ok, not_or,
      not_not] at ho
    obtain ⟨hbegins, rfl⟩ := ho
    exact ⟨fun _ => hbegins, by simp, rfl, rfl, _, fun streamId => Dict.get?_set _ _ _ _, rfl⟩
  | some p =>
    have hp := mem_trail.mp (List.mem_of_getLast? hlast)
    rw [hlast] at ho
    simp only [Option.map_some, openStream, bind_eq_ok, exists_unit, raiseIf_eq_ok, demand_eq_ok, pure_eq_ok,
      not_not] at ho
    obtain ⟨hidentity, parent, hparent, hverified, rfl⟩ := ho
    have hfound : parent = p := Option.some.inj (hparent.symm.trans ((event?_eq_some h).mpr ⟨hp.1, rfl⟩))
    subst hfound
    refine ⟨?_, ?_, rfl, rfl, rowOf parent, ?_, ?_⟩
    · intro hnil
      rw [hnil] at hlast
      cases hlast
    · intro q hq
      cases hq
      exact mapError_eq_ok.mp hverified
    · intro streamId
      by_cases hs : streamId = e.streamId
      · rw [if_pos hs, hs, h.heads e.streamId, hlast]
        rfl
      · rw [if_neg hs]
    · simp [HeadRow.advanced, rowOf, hidentity, headOf, hp.2]

theorem putEvent_eq_ok (h : Chained db) (hput : putEvent db e = .ok (db', inserted)) :
    (inserted = false ∧ db' = db ∧ e ∈ db.events) ∨ (inserted = true ∧ Written db e db') := by
  unfold putEvent at hput
  cases hfound : db.event? e.eventId with
  | some existing =>
    rw [hfound] at hput
    simp only [bind_eq_ok, exists_unit, raiseIf_eq_ok, not_not, pure_eq_ok, Prod.mk.injEq] at hput
    obtain ⟨rfl, rfl, rfl⟩ := hput
    exact .inl ⟨rfl, rfl, ((event?_eq_some h).mp hfound).1⟩
  | none =>
    rw [hfound, selectHead_eq h] at hput
    simp only [bind_eq_ok, Except.ok.injEq, exists_eq_left', exists_unit, raiseIf_eq_ok, pure_eq_ok,
      Prod.mk.injEq] at hput
    obtain ⟨opened, hopened, -, written, hwritten, advanced, hadvanced, rfl, rfl⟩ := hput
    obtain ⟨hfirst, hnext, hevents, hrecoveries, row, hheads, hrow⟩ := openStream_eq_ok h hopened
    obtain rfl := insertEvent_eq_ok hwritten
    obtain ⟨row', hrow', rfl⟩ := advanceHead_eq_ok hadvanced
    have hsame : row' = row := by
      rw [show opened.1.heads.get? e.streamId = some row by rw [hheads, if_pos rfl]] at hrow'
      exact (Option.some.inj hrow').symm
    refine .inr ⟨rfl, keyed_eq_none.mp hfound, hfirst, hnext, ?_, fun streamId => ?_, hrecoveries⟩
    · rw [hevents]
    · show (opened.1.heads.set e.streamId _).get? streamId = _
      rw [Dict.get?_set, hsame, hrow, hheads]
      split <;> rfl

theorem putRecovery_eq_ok {r : Recovery hash codec} (h : putRecovery db r e = .ok (db', inserted)) :
    (inserted = false ∧ db' = db ∧ db.recovery? r.recoveryActionId = some ⟨r, e.eventId⟩) ∨
      (inserted = true ∧ r.recoveryActionId ∉ db.recoveries.map (fun row => row.recovery.recoveryActionId) ∧
        db' = { db with recoveries := db.recoveries ++ [⟨r, e.eventId⟩] }) := by
  unfold putRecovery at h
  cases hfound : db.recovery? r.recoveryActionId with
  | some stored =>
    rw [hfound] at h
    simp only [bind_eq_ok, exists_unit, raiseIf_eq_ok, not_not, pure_eq_ok, Prod.mk.injEq] at h
    obtain ⟨rfl, rfl, rfl⟩ := h
    exact .inl ⟨rfl, rfl, rfl⟩
  | none =>
    rw [hfound] at h
    simp only [bind_eq_ok, exists_unit, raiseIf_eq_ok, pure_eq_ok, Prod.mk.injEq] at h
    obtain ⟨-, -, rfl, rfl⟩ := h
    exact .inr ⟨rfl, keyed_eq_none.mp hfound, rfl⟩

theorem nodup_snoc {α : Type} {f : α → Str} {l : List α} {a : α} (hfresh : f a ∉ l.map f) (hn : (l.map f).Nodup) :
    ((l ++ [a]).map f).Nodup := by
  have hconcat := hn.concat hfresh
  rwa [List.concat_eq_append, ← List.map_singleton, ← List.map_append] at hconcat

theorem trail_snoc (hevents : db'.events = db.events ++ [e]) (streamId : Str) :
    trail db' streamId = if e.streamId = streamId then trail db streamId ++ [e] else trail db streamId := by
  rw [trail, hevents]
  by_cases hs : e.streamId = streamId
  · subst hs
    rw [if_pos rfl]
    exact shape.stream_snoc_self db.events e
  · rw [if_neg hs]
    exact shape.stream_snoc_of_ne db.events hs

theorem Written.chained (hw : Written db e db') (h : Chained db) : Chained db' := by
  constructor
  · intro streamId
    rw [trail_snoc hw.events]
    split
    · rename_i hs
      subst hs
      exact (h.chains e.streamId).concat hw.first hw.next
    · exact h.chains streamId
  · intro streamId
    rw [hw.heads, trail_snoc hw.events]
    by_cases hs : e.streamId = streamId
    · rw [if_pos hs.symm, if_pos hs, List.getLast?_concat, Option.map_some]
    · rw [if_neg (Ne.symm hs), if_neg hs, h.heads]
  · rw [hw.events]
    exact nodup_snoc hw.fresh h.ids

end Writing

section Runs

variable {db db' : AuditDb hash codec} {e : Event hash codec} {r : Recovery hash codec} {call : Call hash codec}
  {answer : Answer}

theorem validateRecoveryEvent_eq_ok {r : RecoveryAction} {e : AuditEvent} (h : validateRecoveryEvent r e = .ok ()) :
    e.eventType.recovers ∧ e.recoveryReferences = [r.recoveryActionId] := by
  simp only [validateRecoveryEvent, bind_eq_ok, exists_unit, raiseIf_eq_ok, not_or, not_not] at h
  obtain ⟨⟨htype, hreferences, -⟩, -⟩ := h
  refine ⟨?_, hreferences⟩
  rw [htype]
  cases r.result with
  | succeeded => exact .inl rfl
  | failed => exact .inr rfl

theorem event_apply_eq_ok (h : (Call.event e).apply db = .ok (db', answer)) :
    ¬e.eventType.recovers ∧ ∃ inserted, putEvent db e = .ok (db', inserted) ∧ answer = ⟨inserted, false⟩ := by
  simp only [Call.apply, appendEvent, bind_eq_ok, exists_unit, raiseIf_eq_ok, mapError_eq_ok, pure_eq_ok,
    Prod.mk.injEq] at h
  obtain ⟨out, ⟨hkind, hput⟩, rfl, rfl⟩ := h
  exact ⟨hkind, out.2, hput, rfl⟩

theorem recovery_apply_eq_ok (h : (Call.recovery r e).apply db = .ok (db', answer)) :
    validateRecoveryEvent r.toRecoveryAction e.toAuditEvent = .ok () ∧
      ∃ withEvent eventInserted recoveryInserted, putEvent db e = .ok (withEvent, eventInserted) ∧
        putRecovery withEvent r e = .ok (db', recoveryInserted) ∧ answer = ⟨eventInserted, recoveryInserted⟩ := by
  simp only [Call.apply, appendRecovery, bind_eq_ok, exists_unit, mapError_eq_ok, pure_eq_ok, Prod.mk.injEq] at h
  obtain ⟨out, ⟨hlinked, withEvent, hput, written, hrecovery, rfl⟩, rfl, rfl⟩ := h
  exact ⟨hlinked, withEvent.1, withEvent.2, written.2, hput, hrecovery, rfl⟩

-- the records of a call are in the database
def Call.present (db : AuditDb hash codec) : Call hash codec → Prop
  | .event e => ¬e.eventType.recovers ∧ e ∈ db.events
  | .recovery r e => validateRecoveryEvent r.toRecoveryAction e.toAuditEvent = .ok () ∧ e ∈ db.events ∧
      ⟨r, e.eventId⟩ ∈ db.recoveries

structure Grows (db db' : AuditDb hash codec) : Prop where
  events : db.events ⊆ db'.events
  recoveries : db.recoveries ⊆ db'.recoveries

theorem Grows.refl (db : AuditDb hash codec) : Grows db db := ⟨List.Subset.refl _, List.Subset.refl _⟩

theorem Grows.trans {db₁ db₂ db₃ : AuditDb hash codec} (h : Grows db₁ db₂) (h' : Grows db₂ db₃) : Grows db₁ db₃ :=
  ⟨List.Subset.trans h.events h'.events, List.Subset.trans h.recoveries h'.recoveries⟩

theorem Call.present.grows (h : call.present db) (hgrows : Grows db db') : call.present db' := by
  cases call with
  | event e => exact ⟨h.1, hgrows.events h.2⟩
  | recovery r e => exact ⟨h.1, hgrows.events h.2.1, hgrows.recoveries h.2.2⟩

theorem putEvent_grows (h : Chained db) {inserted : Bool} (hput : putEvent db e = .ok (db', inserted)) :
    Chained db' ∧ e ∈ db'.events ∧ db.events ⊆ db'.events ∧ (∀ x ∈ db'.events, x ∈ db.events ∨ x = e) ∧
      db'.recoveries = db.recoveries := by
  rcases putEvent_eq_ok h hput with ⟨-, rfl, he⟩ | ⟨-, hw⟩
  · exact ⟨h, he, List.Subset.refl _, fun x hx => .inl hx, rfl⟩
  · refine ⟨hw.chained h, ?_, ?_, fun x hx => ?_, hw.recoveries⟩
    · rw [hw.events]
      exact List.mem_append_right _ (List.mem_singleton_self e)
    · rw [hw.events]
      exact List.subset_append_left _ _
    · rw [hw.events, List.mem_append, List.mem_singleton] at hx
      exact hx

theorem event_applied (h : Kept db) (happly : (Call.event e).apply db = .ok (db', answer)) :
    Kept db' ∧ Grows db db' ∧ (Call.event e).present db' := by
  obtain ⟨hkind, inserted, hput, -⟩ := event_apply_eq_ok happly
  obtain ⟨hchained, he, hsub, hnew, hsame⟩ := putEvent_grows h.chained hput
  refine ⟨⟨hchained, ?_, ?_, ?_⟩, ⟨hsub, by rw [hsame]; exact List.Subset.refl _⟩, hkind, he⟩
  · rw [hsame]
    exact h.matched.recoveryIds
  · intro row hrow
    rw [hsame] at hrow
    obtain ⟨x, hx, hlinked⟩ := h.matched.evidence row hrow
    exact ⟨x, hsub hx, hlinked⟩
  · intro x hx hrecovers
    rw [hsame]
    rcases hnew x hx with hx | rfl
    · exact h.matched.recorded x hx hrecovers
    · exact absurd hrecovers hkind

theorem putRecovery_grows (hn : (db.recoveries.map (fun row => row.recovery.recoveryActionId)).Nodup)
    {inserted : Bool} (hput : putRecovery db r e = .ok (db', inserted)) :
    ⟨r, e.eventId⟩ ∈ db'.recoveries ∧ db.recoveries ⊆ db'.recoveries ∧
      (∀ row ∈ db'.recoveries, row ∈ db.recoveries ∨ row = ⟨r, e.eventId⟩) ∧
      (db'.recoveries.map (fun row => row.recovery.recoveryActionId)).Nodup ∧
      db' = { db with recoveries := db'.recoveries } := by
  rcases putRecovery_eq_ok hput with ⟨-, rfl, hfound⟩ | ⟨-, hfresh, rfl⟩
  · exact ⟨((keyed_eq_some hn).mp hfound).1, List.Subset.refl _, fun row hrow => .inl hrow, hn, rfl⟩
  · refine ⟨List.mem_append_right _ (List.mem_singleton_self _), List.subset_append_left _ _, fun row hrow => ?_,
      nodup_snoc hfresh hn, rfl⟩
    rwa [List.mem_append, List.mem_singleton] at hrow

theorem recovery_applied (h : Kept db) (happly : (Call.recovery r e).apply db = .ok (db', answer)) :
    Kept db' ∧ Grows db db' ∧ (Call.recovery r e).present db' := by
  obtain ⟨hlinked, withEvent, _, _, hput, hrecovery, -⟩ := recovery_apply_eq_ok happly
  obtain ⟨hchained, he, hsub, hnew, hsame⟩ := putEvent_grows h.chained hput
  have hn : (withEvent.recoveries.map (fun row => row.recovery.recoveryActionId)).Nodup := by
    rw [hsame]
    exact h.matched.recoveryIds
  obtain ⟨hrow, hrows, hnewRow, hids, hdb⟩ := putRecovery_grows hn hrecovery
  rw [hsame] at hrows hnewRow
  have hevents : db'.events = withEvent.events := by rw [hdb]
  refine ⟨⟨?_, hids, ?_, ?_⟩, ⟨?_, hrows⟩, hlinked, hevents ▸ he, hrow⟩
  · rw [hdb]
    exact ⟨hchained.chains, hchained.heads, hchained.ids⟩
  · intro row hmem
    rcases hnewRow row hmem with hmem | rfl
    · obtain ⟨x, hx, hevidence⟩ := h.matched.evidence row hmem
      exact ⟨x, hevents ▸ hsub hx, hevidence⟩
    · exact ⟨e, hevents ▸ he, rfl, hlinked⟩
  · intro x hx hrecovers
    rw [hevents] at hx
    rcases hnew x hx with hx | rfl
    · obtain ⟨row, hmem, hid⟩ := h.matched.recorded x hx hrecovers
      exact ⟨row, hrows hmem, hid⟩
    · exact ⟨_, hrow, rfl⟩
  · rw [hevents]
    exact hsub

theorem applied (h : Kept db) (happly : call.apply db = .ok (db', answer)) :
    Kept db' ∧ Grows db db' ∧ call.present db' := by
  cases call with
  | event e => exact event_applied h happly
  | recovery r e => exact recovery_applied h happly

theorem step_kept (h : Kept db) (call : Call hash codec) : Kept (step db call) ∧ Grows db (step db call) := by
  unfold step
  cases happly : call.apply db with
  | error e => exact ⟨h, Grows.refl db⟩
  | ok out =>
    obtain ⟨hkept, hgrows, -⟩ := applied h happly
    exact ⟨hkept, hgrows⟩

theorem run_kept (h : Kept db) (calls : List (Call hash codec)) : Kept (run db calls) ∧ Grows db (run db calls) := by
  induction calls generalizing db with
  | nil => exact ⟨h, Grows.refl db⟩
  | cons call calls ih =>
    obtain ⟨hstep, hgrows⟩ := step_kept h call
    obtain ⟨hrun, hrest⟩ := ih hstep
    exact ⟨hrun, hgrows.trans hrest⟩

theorem putEvent_again (h : Chained db) (he : e ∈ db.events) : putEvent db e = .ok (db, false) := by
  have hfound : db.event? e.eventId = some e := (event?_eq_some h).mpr ⟨he, rfl⟩
  rw [putEvent, hfound]
  simp only [bind_eq_ok, exists_unit, raiseIf_eq_ok, not_not, pure_eq_ok, and_true]

-- a call whose records are there already writes nothing
theorem apply_again (h : Kept db) (hpresent : call.present db) : call.apply db = .ok (db, ⟨false, false⟩) := by
  cases call with
  | event e =>
    obtain ⟨hkind, he⟩ := hpresent
    rw [Call.apply, appendEvent, raiseIf_of_not hkind, putEvent_again h.chained he]
    rfl
  | recovery r e =>
    obtain ⟨hlinked, he, hrow⟩ := hpresent
    have hfound : db.recovery? r.recoveryActionId = some ⟨r, e.eventId⟩ :=
      (keyed_eq_some h.matched.recoveryIds).mpr ⟨hrow, rfl⟩
    have hput : putRecovery db r e = .ok (db, false) := by
      rw [putRecovery, hfound]
      simp only [bind_eq_ok, exists_unit, raiseIf_eq_ok, not_not, pure_eq_ok, and_true]
    rw [Call.apply, appendRecovery, hlinked, putEvent_again h.chained he]
    show ((putRecovery db r e >>= _).mapError _ >>= _) = _
    rw [hput]
    rfl

end Runs

section Reads

variable {db : AuditDb hash codec} {streamId : Str}

theorem verifyPage_of_chain {parent : Option (Event hash codec)} {page : List (Event hash codec)}
    (h : (parent.toList ++ page).IsChain Follows) : verifyPage parent page = .ok () := by
  induction page generalizing parent with
  | nil => cases parent <;> rfl
  | cons e page ih =>
    cases parent with
    | none => exact ih h
    | some p =>
      have hpe : (p :: e :: page).IsChain Follows := h
      rw [List.isChain_cons_cons] at hpe
      obtain ⟨hfollows, hrest⟩ := hpe
      rw [verifyPage, mapError_eq_ok.mpr hfollows]
      exact ih hrest

theorem listed_eq (h : Chained db) (afterSequence : Nat) :
    orderBy (fun e : Event hash codec => e.sequence) (db.events.filter
      (fun e => decide (e.streamId = streamId ∧ afterSequence < e.sequence))) =
      (trail db streamId).drop afterSequence := by
  have hfilter : db.events.filter (fun e => decide (e.streamId = streamId ∧ afterSequence < e.sequence)) =
      (trail db streamId).drop afterSequence := by
    rw [← (h.chains streamId).after afterSequence, trail, LogShape.stream, List.filter_filter]
    apply List.filter_congr
    intro e _
    rw [Bool.decide_and, Bool.and_comm]
    rfl
  rw [hfilter]
  apply orderBy_of_pairwise
  have hlt := LogShape.pairwise_lt_of_range' (h.chains streamId).sequences
  exact (hlt.sublist (List.drop_sublist _ _)).imp Nat.le_of_lt

theorem find?_of_unique {α : Type} {p : α → Bool} {l : List α} {a : α} (ha : a ∈ l) (hp : p a = true)
    (hunique : ∀ b ∈ l, p b = true → b = a) : l.find? p = some a := by
  cases hfound : l.find? p with
  | none => exact absurd hp (List.find?_eq_none.mp hfound a ha)
  | some b => rw [hunique b (List.mem_of_find?_eq_some hfound) (List.find?_some hfound)]

-- the page goes on from the event before its first one, so every parent is verified
theorem pageParent_of_chain (h : Chained db) {afterSequence : Nat} {first : Event hash codec}
    {rest : List (Event hash codec)} (hpage : (trail db streamId).drop afterSequence = first :: rest) :
    ∃ parent, pageParent db streamId first = .ok parent ∧
      (parent.toList ++ (trail db streamId).drop afterSequence).IsChain Follows := by
  have hchain := h.chains streamId
  have hlong : afterSequence < (trail db streamId).length := by
    by_contra hshort
    rw [List.drop_eq_nil_of_le (Nat.le_of_not_lt hshort)] at hpage
    cases hpage
  have hfirst : first = (trail db streamId)[afterSequence] := by
    rw [List.drop_eq_getElem_cons hlong, List.cons.injEq] at hpage
    exact hpage.1.symm
  have hsequence : first.sequence = afterSequence + 1 := by
    rw [hfirst]
    exact hchain.sequence_getElem hlong
  cases afterSequence with
  | zero =>
    have hone : ¬1 < first.sequence := by omega
    refine ⟨none, by rw [pageParent, if_neg hone], ?_⟩
    exact hchain.follows
  | succ n =>
    have hshort : n < (trail db streamId).length := by omega
    have hmany : 1 < first.sequence := by omega
    have hdrop : (trail db streamId).drop n = (trail db streamId)[n] :: (trail db streamId).drop (n + 1) :=
      List.drop_eq_getElem_cons hshort
    have hfound : db.events.find? (fun e => decide (e.streamId = streamId ∧ e.sequence = first.sequence - 1)) =
        some (trail db streamId)[n] := by
      have hmem := List.getElem_mem hshort
      have hn : (trail db streamId)[n].sequence = first.sequence - 1 := by
        rw [hchain.sequence_getElem hshort, hsequence]
        rfl
      apply find?_of_unique (mem_trail.mp hmem).1
      · exact decide_eq_true ⟨(mem_trail.mp hmem).2, hn⟩
      · intro e he hkey
        obtain ⟨hs, hsame⟩ := of_decide_eq_true hkey
        have hids : ((trail db streamId).map (fun e => e.sequence)).Nodup := by
          rw [hchain.sequences]
          exact List.nodup_range'
        exact List.inj_on_of_nodup_map hids (mem_trail.mpr ⟨he, hs⟩) hmem (hsame.trans hn.symm)
    refine ⟨some (trail db streamId)[n], ?_, ?_⟩
    · rw [pageParent, if_pos hmany, hfound]
      rfl
    · show ((trail db streamId)[n] :: (trail db streamId).drop (n + 1)).IsChain Follows
      rw [← hdrop]
      exact hchain.follows.drop n

theorem verifiedPage_eq (h : Chained db) {afterSequence limit : Nat} (hlimit : 1 ≤ limit) :
    verifiedPage db streamId (((trail db streamId).drop afterSequence).take limit) =
      .ok (((trail db streamId).drop afterSequence).take limit) := by
  cases hpage : (trail db streamId).drop afterSequence with
  | nil =>
    rw [List.take_nil]
    rfl
  | cons first rest =>
    obtain ⟨parent, hparent, hchain⟩ := pageParent_of_chain h hpage
    have hverified : verifyPage parent ((first :: rest).take limit) = .ok () := by
      apply verifyPage_of_chain
      rw [hpage] at hchain
      apply hchain.infix
      exact ((List.prefix_append_right_inj _).mpr (List.take_prefix _ _)).isInfix
    have hhead : ((first :: rest).take limit).head? = some first := by
      cases limit with
      | zero => omega
      | succ n => rfl
    rw [verifiedPage, hhead]
    simp only [bind_eq_ok, exists_unit, pure_eq_ok, and_true]
    exact ⟨parent, hparent, hverified⟩

theorem validateStreamId_eq_ok : validateStreamId streamId = .ok () ↔ Outbox.boundedText 128 streamId = true := by
  simp [validateStreamId]

theorem listEvents_eq (h : Chained db) (hstream : Outbox.boundedText 128 streamId = true) {afterSequence limit : Nat}
    (hafter : afterSequence ≤ auditMaxSequence) (hlimit : 1 ≤ limit ∧ limit ≤ maxPageSize) :
    listEvents db streamId afterSequence limit = .ok (((trail db streamId).drop afterSequence).take limit) := by
  have hcursor : ¬auditMaxSequence < afterSequence := by omega
  have hbounds : ¬(limit < 1 ∨ maxPageSize < limit) := by omega
  rw [listEvents, validateStreamId_eq_ok.mpr hstream, raiseIf_of_not hcursor, raiseIf_of_not hbounds, listed_eq h]
  exact verifiedPage_eq h hlimit.1

theorem last_of_page (h : Chained db) {afterSequence limit : Nat} {last : Event hash codec}
    (hlast : (((trail db streamId).drop afterSequence).take limit).getLast? = some last) :
    last.sequence ≤ auditMaxSequence ∧
      (trail db streamId).drop last.sequence = ((trail db streamId).drop afterSequence).drop limit := by
  have hchain := h.chains streamId
  have hremaining (n : Nat) :
      Paging.remaining (fun e : Event hash codec => e.sequence) (trail db streamId) (n + 1) =
        (trail db streamId).drop n := hchain.after n
  refine ⟨last.sound.bounded.2, ?_⟩
  rw [← hremaining afterSequence] at hlast
  rw [← hremaining last.sequence, ← hremaining afterSequence]
  exact Paging.remaining_after_window (LogShape.pairwise_lt_of_range' hchain.sequences) hlast

-- induction on the fuel: a page and the pages after it make up what is left of the stream
theorem listPages_eq (h : Chained db) (hstream : Outbox.boundedText 128 streamId = true) {limit : Nat}
    (hlimit : 1 ≤ limit ∧ limit ≤ maxPageSize) {fuel afterSequence : Nat} (hafter : afterSequence ≤ auditMaxSequence)
    (hfuel : ((trail db streamId).drop afterSequence).length < fuel) :
    listPages db streamId limit fuel afterSequence = .ok ((trail db streamId).drop afterSequence) := by
  induction fuel generalizing afterSequence with
  | zero => omega
  | succ fuel ih =>
    rw [listPages, listEvents_eq h hstream hafter hlimit]
    cases hlast : (((trail db streamId).drop afterSequence).take limit).getLast? with
    | none =>
      have hempty : (trail db streamId).drop afterSequence = [] := by
        rcases List.take_eq_nil_iff.mp (List.getLast?_eq_none_iff.mp hlast) with hzero | hnil
        · omega
        · exact hnil
      rw [hempty, List.take_nil]
      rfl
    | some last =>
      obtain ⟨hcursor, hrest⟩ := last_of_page h hlast
      have hshorter : ((trail db streamId).drop last.sequence).length < fuel := by
        have hpositive : ((trail db streamId).drop afterSequence) ≠ [] := by
          intro hnil
          rw [hnil, List.take_nil] at hlast
          cases hlast
        have hlen := List.length_pos_iff.mpr hpositive
        rw [hrest, List.length_drop]
        omega
      have htail := ih hcursor hshorter
      refine bind_eq_ok.mpr ⟨_, rfl, ?_⟩
      simp only [hlast]
      show (listPages db streamId limit fuel last.sequence >>= fun rest =>
            .ok (((trail db streamId).drop afterSequence).take limit ++ rest)) = _
      rw [htail, hrest]
      exact congrArg Except.ok (List.take_append_drop _ _)

end Reads

section Integrity

variable (db : AuditDb hash codec)

structure Trail (streamId : Str) : Prop where
  sequences : (trail db streamId).map (fun e => e.sequence) = List.range' 1 (trail db streamId).length
  linked : shape.Linked none (trail db streamId)
  sameIdentity : ∀ e ∈ trail db streamId, ∀ f ∈ trail db streamId, e.toAuditEvent.identity = f.toAuditEvent.identity
  ordered : (trail db streamId).Pairwise (fun a b => a.instant ≤ b.instant)
  head : Outbox.boundedText 128 streamId = true →
    streamHead db streamId = .ok ((trail db streamId).getLast?.map headOf)

-- a recovery event refers to one recovery action, and each recovery action is referred to by one
def Evidences (e : Event hash codec) (row : RecoveryRow hash codec) : Prop :=
  e.eventType.recovers ∧ e.recoveryReferences = [row.recovery.recoveryActionId]

structure OneToOne : Prop where
  event : ∀ row ∈ db.recoveries, ∃! e, e ∈ db.events ∧ Evidences e row
  action : ∀ e ∈ db.events, e.eventType.recovers → ∃! row, row ∈ db.recoveries ∧ Evidences e row
  linked : ∀ row ∈ db.recoveries, ∀ e ∈ db.events, Evidences e row →
    row.eventId = e.eventId ∧ validateRecoveryEvent row.recovery.toRecoveryAction e.toAuditEvent = .ok ()

variable {db}

theorem Kept.trail (h : Kept db) (streamId : Str) : Trail db streamId := by
  have hchain := h.chained.chains streamId
  refine ⟨hchain.sequences, hchain.linked, hchain.sameIdentity, hchain.ordered, fun hstream => ?_⟩
  rw [streamHead, validateStreamId_eq_ok.mpr hstream]
  exact selectHead_eq h.chained streamId

theorem Kept.linked (h : Kept db) {row : RecoveryRow hash codec} (hrow : row ∈ db.recoveries)
    {e : Event hash codec} (he : e ∈ db.events) (hevidence : Evidences e row) :
    row.eventId = e.eventId ∧ validateRecoveryEvent row.recovery.toRecoveryAction e.toAuditEvent = .ok () := by
  obtain ⟨other, hother, hid⟩ := h.matched.recorded e he hevidence.1
  obtain ⟨f, hf, hfid, hlinked⟩ := h.matched.evidence other hother
  have hfe : f = e := List.inj_on_of_nodup_map h.chained.ids hf he (hfid.symm.trans hid)
  subst hfe
  have hsame : other = row := by
    apply List.inj_on_of_nodup_map h.matched.recoveryIds hother hrow
    have hreferences := (validateRecoveryEvent_eq_ok hlinked).2.symm.trans hevidence.2
    exact (List.cons.inj hreferences).1
  subst hsame
  exact ⟨hid, hlinked⟩

theorem Kept.oneToOne (h : Kept db) : OneToOne db := by
  refine ⟨fun row hrow => ?_, fun e he hrecovers => ?_, fun row hrow e he => h.linked hrow he⟩
  · obtain ⟨e, he, hid, hlinked⟩ := h.matched.evidence row hrow
    refine ⟨e, ⟨he, validateRecoveryEvent_eq_ok hlinked⟩, ?_⟩
    rintro f ⟨hf, hevidence⟩
    exact List.inj_on_of_nodup_map h.chained.ids hf he ((h.linked hrow hf hevidence).1.symm.trans hid)
  · obtain ⟨row, hrow, hid⟩ := h.matched.recorded e he hrecovers
    obtain ⟨f, hf, hfid, hlinked⟩ := h.matched.evidence row hrow
    have hfe : f = e := List.inj_on_of_nodup_map h.chained.ids hf he (hfid.symm.trans hid)
    subst hfe
    have hevidence : Evidences f row := validateRecoveryEvent_eq_ok hlinked
    refine ⟨row, ⟨hrow, hevidence⟩, ?_⟩
    rintro other ⟨hother, hreferred⟩
    apply List.inj_on_of_nodup_map h.matched.recoveryIds hother hrow
    exact (List.cons.inj (hreferred.2.symm.trans hevidence.2)).1

theorem run_append (db : AuditDb hash codec) (earlier later : List (Call hash codec)) :
    run db (earlier ++ later) = run (run db earlier) later := List.foldl_append

theorem repeated_call (h : Kept db) {call : Call hash codec} {written : AuditDb hash codec} {answer : Answer}
    (happly : call.apply db = .ok (written, answer)) (later : List (Call hash codec)) :
    call.apply (run db (call :: later)) = .ok (run db (call :: later), ⟨false, false⟩) := by
  obtain ⟨hkept, -, hpresent⟩ := applied h happly
  have hstep : step db call = written := by
    rw [step, happly]
  have hrun : run db (call :: later) = run written later := by
    rw [← hstep]
    rfl
  obtain ⟨hlater, hgrows⟩ := run_kept hkept later
  rw [hrun]
  exact apply_again hlater (hpresent.grows hgrows)

def database (hash : TextHash) (codec : FloatCodec) (calls : List (Call hash codec)) : AuditDb hash codec :=
  run (AuditDb.empty hash codec) calls

theorem audit_trail_integrity (hash : TextHash) (codec : FloatCodec) (calls : List (Call hash codec)) :
    (∀ streamId, Trail (database hash codec calls) streamId) ∧ OneToOne (database hash codec calls) ∧
      (∀ earlier call later written answer, calls = earlier ++ call :: later →
        call.apply (database hash codec earlier) = .ok (written, answer) →
        call.apply (database hash codec calls) = .ok (database hash codec calls, ⟨false, false⟩)) ∧
      ∀ streamId limit afterSequence fuel, Outbox.boundedText 128 streamId = true → 1 ≤ limit → limit ≤ maxPageSize →
        afterSequence ≤ auditMaxSequence → (database hash codec calls).events.length < fuel →
        listPages (database hash codec calls) streamId limit fuel afterSequence =
          .ok ((trail (database hash codec calls) streamId).filter (fun e => decide (afterSequence < e.sequence))) := by
  have hkept : Kept (database hash codec calls) := (run_kept kept_empty calls).1
  refine ⟨hkept.trail, hkept.oneToOne, ?_, ?_⟩
  · rintro earlier call later written answer rfl happly
    have hsplit : database hash codec (earlier ++ call :: later) =
        run (database hash codec earlier) (call :: later) := run_append _ _ _
    rw [hsplit]
    exact repeated_call (run_kept kept_empty earlier).1 happly later
  · intro streamId limit afterSequence fuel hstream hpositive hlimit hafter hfuel
    rw [(hkept.chained.chains streamId).after afterSequence]
    apply listPages_eq hkept.chained hstream ⟨hpositive, hlimit⟩ hafter
    have hshort : (trail (database hash codec calls) streamId).length ≤ (database hash codec calls).events.length :=
      List.length_filter_le _ _
    rw [List.length_drop]
    omega

end Integrity

end Audit

end TraceBackedMemory
