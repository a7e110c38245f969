import TraceBackedMemory.Semantic.AttemptReducer
import TraceBackedMemory.Semantic.Attempts

namespace TraceBackedMemory

open Text Raising

namespace SemanticGate

variable {sha : Sha256} {e : SystemGateEvaluation sha} {snapshot : RetrievalSnapshot}
  {a parent : SemanticGateAttempt sha} {attempts : List (SemanticGateAttempt sha)}

section Records

theorem revisionIds_nodup {ids : List Str} {label : Str} (h : revisionIds ids label = .ok ()) :
    ids.Nodup := by
  simp only [revisionIds, bind_eq_ok, exists_unit, raiseIf_eq_ok, not_not] at h
  exact h.2.2.1

structure Wellformed (a : SemanticGateAttempt sha) : Prop where
  sequence : 1 ≤ a.sequence
  first : a.sequence = 1 → a.previousAttemptId = none
  allowed : a.finalAllowedRevisionIds.Nodup
  blocked : a.finalBlockedRevisionIds.Nodup
  disjoint : a.finalAllowedRevisionIds.Disjoint a.finalBlockedRevisionIds
  times : a.startedAt.instant ≤ a.finishedAt.instant

theorem SemanticGateAttempt.wellformed (a : SemanticGateAttempt sha) : Wellformed a := by
  have h := a.checked
  simp only [AttemptContent.check, AttemptContent.checkParent, bind_eq_ok, exists_unit, raiseIf_eq_ok,
    not_or, not_lt] at h
  obtain ⟨-, -, -, ⟨hsequence, hparent, -⟩, -, -, -, -, -, -, hallowed, hblocked, hdisjoint, -, -, -,
    htimes, -⟩ := h
  refine ⟨hsequence.1, ?_, revisionIds_nodup hallowed, revisionIds_nodup hblocked, ?_, htimes⟩
  · intro hone
    rw [AttemptContent.checkPrevious, if_pos hone, raiseIf_eq_ok, not_not] at hparent
    exact hparent
  · intro id hin hout
    exact hdisjoint ⟨id, hin, hout⟩

theorem SystemGateEvaluation.candidates_nodup (e : SystemGateEvaluation sha) : e.candidates.Nodup := by
  have h := e.checked
  simp only [EvaluationContent.check, bind_eq_ok, exists_unit, raiseIf_eq_ok, not_not] at h
  obtain ⟨-, -, -, -, -, -, -, -, hnodup⟩ := h
  exact hnodup

theorem mem_decidedAs (c : EvaluationContent) {id : Str} :
    id ∈ c.decidedAs .allowed ++ c.decidedAs .blocked ↔ id ∈ c.candidates := by
  simp only [EvaluationContent.decidedAs, EvaluationContent.candidates, List.mem_append, List.mem_map,
    List.mem_filter, decide_eq_true_eq]
  constructor
  · rintro (⟨d, ⟨hd, -⟩, rfl⟩ | ⟨d, ⟨hd, -⟩, rfl⟩)
    · exact ⟨d, hd, rfl⟩
    · exact ⟨d, hd, rfl⟩
  · rintro ⟨d, hd, rfl⟩
    cases houtcome : d.outcome with
    | allowed => exact .inl ⟨d, ⟨hd, houtcome⟩, rfl⟩
    | blocked => exact .inr ⟨d, ⟨hd, houtcome⟩, rfl⟩

end Records

section Verified

def RetrievalSnapshot.candidates (snapshot : RetrievalSnapshot) : List Str :=
  snapshot.hits.map RetrievalHit.memoryRevisionId

structure Evaluates (e : SystemGateEvaluation sha) (snapshot : RetrievalSnapshot) : Prop where
  session : e.sessionId = snapshot.sessionId
  retrieval : e.retrievalSnapshotId = snapshot.snapshotId
  authorization : e.authorizationEventId = snapshot.authorizationEventId
  candidates : e.candidates = snapshot.candidates
  times : snapshot.createdAt.instant ≤ e.evaluatedAt.instant

theorem evaluates_of_verify (h : verifySystemGateEvaluation e snapshot = .ok ()) :
    Evaluates e snapshot := by
  simp only [verifySystemGateEvaluation, bind_eq_ok, exists_unit, raiseIf_eq_ok, ne_eq, not_not,
    not_lt] at h
  obtain ⟨hsession, hsnapshot, hauthorization, hhits, htimes⟩ := h
  refine ⟨hsession, hsnapshot, hauthorization, ?_, htimes⟩
  rw [RetrievalSnapshot.candidates, ← hhits, List.map_map]
  rfl

structure Partitions (a : SemanticGateAttempt sha) (e : SystemGateEvaluation sha)
    (candidates : List Str) : Prop where
  perm : (a.finalAllowedRevisionIds ++ a.finalBlockedRevisionIds).Perm candidates
  blocked : ∀ d ∈ e.decisions, d.outcome = .blocked → d.memoryRevisionId ∈ a.finalBlockedRevisionIds

theorem partitions_of_verify (h : verifyFinalDecision a e = .ok ()) : Partitions a e e.candidates := by
  simp only [verifyFinalDecision, bind_eq_ok, exists_unit, raiseIf_eq_ok, not_not] at h
  obtain ⟨-, ⟨hinside, hcovers⟩, hblocked⟩ := h
  have ha := a.wellformed
  constructor
  · refine (List.perm_ext_iff_of_nodup ?_ e.candidates_nodup).mpr fun id => ?_
    · exact List.nodup_append'.mpr ⟨ha.allowed, ha.blocked, ha.disjoint⟩
    · rw [← mem_decidedAs]
      exact ⟨hinside id, hcovers id⟩
  · intro d hd houtcome
    refine hblocked _ (List.mem_map.mpr ⟨d, List.mem_filter.mpr ⟨hd, ?_⟩, rfl⟩)
    exact decide_eq_true houtcome

structure SoundAttempt (a : SemanticGateAttempt sha) (e : SystemGateEvaluation sha)
    (snapshot : RetrievalSnapshot) : Prop where
  session : a.sessionId = e.sessionId ∧ a.sessionId = snapshot.sessionId
  retrieval : a.retrievalSnapshotId = snapshot.snapshotId
  evaluation : a.systemGateEvaluationId = e.evaluationId
  times : e.evaluatedAt.instant ≤ a.startedAt.instant ∧ a.startedAt.instant ≤ a.finishedAt.instant
  partition : a.status = .succeeded → Partitions a e snapshot.candidates

theorem soundAttempt_of_verify (h : verifySemanticGateAttempt a e snapshot = .ok ()) :
    SoundAttempt a e snapshot := by
  simp only [verifySemanticGateAttempt, bind_eq_ok, exists_unit, raiseIf_eq_ok, ne_eq, not_not,
    not_lt] at h
  obtain ⟨hevaluation, hsession, hsnapshot, hid, htimes, hfinal⟩ := h
  have he := evaluates_of_verify hevaluation
  refine ⟨⟨hsession, hsession.trans he.session⟩, hsnapshot.trans he.retrieval, hid,
    ⟨htimes, a.wellformed.times⟩, ?_⟩
  intro hstatus
  rw [hstatus] at hfinal
  rw [← he.candidates]
  exact partitions_of_verify hfinal

structure Follows (parent a : SemanticGateAttempt sha) : Prop where
  linked : a.previousAttemptId = some parent.attemptId
  sequence : a.sequence = parent.sequence + 1
  times : parent.finishedAt.instant ≤ a.startedAt.instant

theorem follows_of_verify (h : verifySemanticGateAttemptParent a (some parent) = .ok ()) :
    Follows parent a := by
  simp only [verifySemanticGateAttemptParent] at h
  split at h
  · cases h
  · simp only [bind_eq_ok, exists_unit, raiseIf_eq_ok, ne_eq, not_not, not_lt] at h
    exact ⟨h.1, h.2.1, h.2.2.2⟩

end Verified

section Chains

def timeline (attempts : List (SemanticGateAttempt sha)) : List Nat :=
  attempts.flatMap (fun a => [a.startedAt.instant, a.finishedAt.instant])

structure SoundChain (attempts : List (SemanticGateAttempt sha)) (e : SystemGateEvaluation sha)
    (snapshot : RetrievalSnapshot) : Prop where
  sequences : attempts.map (fun a => a.sequence) = List.range' 1 attempts.length
  parents : attempts.map (fun a => a.previousAttemptId) =
    (none :: attempts.map (fun a => some a.attemptId)).take attempts.length
  monotone : (timeline attempts).Pairwise (· ≤ ·)
  sound : ∀ a ∈ attempts, SoundAttempt a e snapshot

structure Linked (first : Nat) (parent : Option Str) (start : Nat)
    (attempts : List (SemanticGateAttempt sha)) : Prop where
  sequences : attempts.map (fun a => a.sequence) = List.range' first attempts.length
  parents : attempts.map (fun a => a.previousAttemptId) =
    (parent :: attempts.map (fun a => some a.attemptId)).take attempts.length
  after : ∀ t ∈ timeline attempts, start ≤ t
  monotone : (timeline attempts).Pairwise (· ≤ ·)

theorem Linked.cons (h : Linked (a.sequence + 1) (some a.attemptId) a.finishedAt.instant attempts)
    {start : Nat} (hstart : start ≤ a.startedAt.instant) :
    Linked a.sequence a.previousAttemptId start (a :: attempts) := by
  have htimes := a.wellformed.times
  have hcons : timeline (a :: attempts) =
      a.startedAt.instant :: a.finishedAt.instant :: timeline attempts := rfl
  constructor
  · rw [List.map_cons, h.sequences, List.length_cons, List.range'_succ]
  · rw [List.map_cons, h.parents, List.length_cons, List.take_succ_cons, List.map_cons]
  · rw [hcons, List.forall_mem_cons, List.forall_mem_cons]
    refine ⟨hstart, hstart.trans htimes, fun t ht => ?_⟩
    exact (hstart.trans htimes).trans (h.after t ht)
  · rw [hcons, List.pairwise_cons, List.pairwise_cons, List.forall_mem_cons]
    exact ⟨⟨htimes, fun t ht => htimes.trans (h.after t ht)⟩, h.after, h.monotone⟩

theorem linked_nil (first : Nat) (parent : Option Str) (start : Nat) :
    Linked first parent start ([] : List (SemanticGateAttempt sha)) :=
  ⟨rfl, rfl, List.forall_mem_nil _, List.Pairwise.nil⟩

-- The links are read from the second attempt on; the first one has no parent record.
theorem linked_of_verify (h : verifyLinks e snapshot (some parent) attempts = .ok ()) :
    Linked (parent.sequence + 1) (some parent.attemptId) parent.finishedAt.instant attempts ∧
      ∀ a ∈ attempts, SoundAttempt a e snapshot := by
  induction attempts generalizing parent with
  | nil => exact ⟨linked_nil _ _ _, List.forall_mem_nil _⟩
  | cons a attempts ih =>
    simp only [verifyLinks, bind_eq_ok, exists_unit] at h
    obtain ⟨hattempt, hparent, hrest⟩ := h
    have hfollows := follows_of_verify hparent
    obtain ⟨hlinked, hsound⟩ := ih hrest
    rw [← hfollows.sequence, ← hfollows.linked]
    exact ⟨hlinked.cons hfollows.times, List.forall_mem_cons.mpr ⟨soundAttempt_of_verify hattempt, hsound⟩⟩

theorem soundChain_of_verify (h : verifySemanticGateAttemptChain attempts e snapshot = .ok ()) :
    SoundChain attempts e snapshot := by
  simp only [verifySemanticGateAttemptChain, bind_eq_ok, exists_unit, raiseIf_eq_ok, not_or] at h
  obtain ⟨⟨hnonempty, -⟩, hlinks⟩ := h
  cases attempts with
  | nil => exact absurd rfl hnonempty
  | cons a attempts =>
    simp only [verifyLinks, verifySemanticGateAttemptParent, bind_eq_ok, exists_unit, raiseIf_eq_ok,
      ne_eq, not_not] at hlinks
    obtain ⟨hattempt, hone, hrest⟩ := hlinks
    obtain ⟨hlinked, hsound⟩ := linked_of_verify hrest
    have hall := hlinked.cons (Nat.zero_le _)
    rw [hone, a.wellformed.first hone] at hall
    exact ⟨hall.sequences, hall.parents, hall.monotone,
      List.forall_mem_cons.mpr ⟨soundAttempt_of_verify hattempt, hsound⟩⟩

end Chains

end SemanticGate

open Text Raising Projection

namespace SemanticGate

section Histories

-- One event of a ledger history: a System Gate evaluation, or an attempt with its artifacts.
inductive Entry (sha : Sha256) (hash : ContentHash) where
  | evaluated (evaluation : SystemGateEvaluation sha) (event : CanonicalEvent sha)
  | attempted (bundle : BundleFields sha hash) (event : CanonicalEvent sha)

variable {sha : Sha256} {hash : ContentHash} {admits : EventEnvelope → Except GateError Unit}

abbrev Attempted (sha : Sha256) (hash : ContentHash) := BundleFields sha hash × CanonicalEvent sha

def Entry.event : Entry sha hash → CanonicalEvent sha
  | .evaluated _ e => e
  | .attempted _ e => e

def Entry.attempt? : Entry sha hash → Option (Attempted sha hash)
  | .evaluated _ _ => none
  | .attempted b e => some (b, e)

def Entry.evaluation? : Entry sha hash → Option (SystemGateEvaluation sha × CanonicalEvent sha)
  | .evaluated evaluation e => some (evaluation, e)
  | .attempted _ _ => none

def attempted (history : List (Entry sha hash)) : List (Attempted sha hash) :=
  history.filterMap Entry.attempt?

def evaluations (history : List (Entry sha hash)) :
    List (SystemGateEvaluation sha × CanonicalEvent sha) := history.filterMap Entry.evaluation?

def chainOf (history : List (Entry sha hash)) (evaluationId : Str) : List (Attempted sha hash) :=
  (attempted history).filter (fun x => decide (x.1.attempt.systemGateEvaluationId = evaluationId))

def streamOf (history : List (Entry sha hash)) (streamId : Str) : List (Attempted sha hash) :=
  (attempted history).filter (fun x => decide (x.2.streamId = streamId))

-- The ledger keeps event ids and stream versions unique.
def Apart (x y : CanonicalEvent sha) : Prop :=
  x.eventId ≠ y.eventId ∧ ¬(x.streamId = y.streamId ∧ x.streamVersion = y.streamVersion)

structure EvaluationEvent (evaluation : SystemGateEvaluation sha) (e : CanonicalEvent sha)
    (r : GateEvidenceRecordRef) : Prop where
  parsed : parseGateEvidenceEvent sha e.toEventEnvelope = .ok r
  eventType : e.eventType = systemGateEvaluatedEvent
  recordId : r.recordId = evaluation.evaluationId
  session : r.sessionId = evaluation.sessionId
  retrieval : r.retrievalSnapshotId = some evaluation.retrievalSnapshotId

-- The events of a history stand in any order in which an attempt comes after its parent.
inductive Published (admits : EventEnvelope → Except GateError Unit) : List (Entry sha hash) → Prop
  | nil : Published admits []
  | evaluate {history : List (Entry sha hash)} {evaluation : SystemGateEvaluation sha}
      {e : CanonicalEvent sha} {r : GateEvidenceRecordRef} (earlier : Published admits history)
      (built : EvaluationEvent evaluation e r) (apart : ∀ x ∈ history, Apart x.event e) :
      Published admits (history ++ [.evaluated evaluation e])
  | attempt {history : List (Entry sha hash)} {bundle : BundleFields sha hash}
      {systemGateEvent previousEvent : Option (CanonicalEvent sha)} {position : Nat}
      {c : EventTrustedContext} {e : CanonicalEvent sha} (earlier : Published admits history)
      (built : buildSemanticGateAttemptEvent admits bundle systemGateEvent previousEvent position c =
        .ok e)
      (gated : ∀ p, systemGateEvent = some p → ∃ evaluation, .evaluated evaluation p ∈ history)
      (continued : ∀ p, previousEvent = some p → ∃ bundle, .attempted bundle p ∈ history)
      (apart : ∀ x ∈ history, Apart x.event e) :
      Published admits (history ++ [.attempted bundle e])

-- Every attempt belongs to the accepted chain of an evaluation of the history.
def ChainsAccepted (history : List (Entry sha hash)) : Prop :=
  ∀ x ∈ attempted history, ∃ evaluation ∈ evaluations history, ∃ snapshot,
    verifySemanticGateAttemptChain
      ((chainOf history x.1.attempt.systemGateEvaluationId).map (fun y => y.1.attempt))
      evaluation.1 snapshot = .ok ()

end Histories

section Streams

variable {sha : Sha256} {hash : ContentHash} {admits : EventEnvelope → Except GateError Unit}
  {history : List (Entry sha hash)} {x y : Attempted sha hash}

theorem attempted_concat (history : List (Entry sha hash)) (entry : Entry sha hash) :
    attempted (history ++ [entry]) = attempted history ++ entry.attempt?.toList := by
  rw [attempted, List.filterMap_append]
  cases entry with
  | evaluated evaluation e => rfl
  | attempted b e => rfl

theorem evaluations_concat (history : List (Entry sha hash)) (entry : Entry sha hash) :
    evaluations (history ++ [entry]) = evaluations history ++ entry.evaluation?.toList := by
  rw [evaluations, List.filterMap_append]
  cases entry with
  | evaluated evaluation e => rfl
  | attempted b e => rfl

theorem mem_attempted : x ∈ attempted history ↔ .attempted x.1 x.2 ∈ history := by
  rw [attempted, List.mem_filterMap]
  constructor
  · rintro ⟨entry, hentry, hsome⟩
    cases entry with
    | evaluated evaluation e => cases hsome
    | attempted b e =>
      cases hsome
      exact hentry
  · intro h
    exact ⟨_, h, rfl⟩

theorem mem_evaluations {z : SystemGateEvaluation sha × CanonicalEvent sha} :
    z ∈ evaluations history ↔ .evaluated z.1 z.2 ∈ history := by
  rw [evaluations, List.mem_filterMap]
  constructor
  · rintro ⟨entry, hentry, hsome⟩
    cases entry with
    | evaluated evaluation e =>
      cases hsome
      exact hentry
    | attempted b e => cases hsome
  · intro h
    exact ⟨_, h, rfl⟩

theorem mem_streamOf {id : Str} : x ∈ streamOf history id ↔ x ∈ attempted history ∧ x.2.streamId = id := by
  rw [streamOf, List.mem_filter, decide_eq_true_iff]

theorem mem_chainOf {id : Str} :
    x ∈ chainOf history id ↔ x ∈ attempted history ∧ x.1.attempt.systemGateEvaluationId = id := by
  rw [chainOf, List.mem_filter, decide_eq_true_iff]

structure RecordedAttempt (b : BundleFields sha hash) (e : CanonicalEvent sha) (r : AttemptEventRef) :
    Prop where
  ref : semanticGateAttemptEventRef b = .ok r
  parsed : parseSemanticGateAttemptEvent sha e.toEventEnvelope = .ok r

namespace RecordedAttempt

variable {b : BundleFields sha hash} {e : CanonicalEvent sha} {r : AttemptEventRef}

theorem fields (h : RecordedAttempt b e r) : r = attemptRefFields b r.causationEventId r.streamId :=
  (eventRef_of_ok h.ref).1

theorem version (h : RecordedAttempt b e r) : e.streamVersion = b.attempt.sequence := by
  rw [(parsedAttempt_of_ok h.parsed).version, h.fields]
  rfl

theorem stream (h : RecordedAttempt b e r) :
    attemptStreamId sha b.attempt.systemGateEvaluationId = .ok e.streamId := by
  have hparsed := parsedAttempt_of_ok h.parsed
  have hstream := hparsed.checked.stream
  rw [h.fields] at hstream
  rw [hparsed.stream]
  exact hstream

theorem eventId (h : RecordedAttempt b e r) : attemptEventId sha b.attempt.attemptId = .ok e.eventId := by
  have hid := (parsedAttempt_of_ok h.parsed).eventId
  rw [h.fields] at hid
  exact hid

theorem positive (h : RecordedAttempt b e r) : 1 ≤ b.attempt.sequence := b.attempt.wellformed.sequence

end RecordedAttempt

theorem Published.recorded (h : Published admits history) :
    ∀ x ∈ attempted history, ∃ r, RecordedAttempt x.1 x.2 r := by
  induction h with
  | nil => exact fun x hx => absurd hx List.not_mem_nil
  | evaluate earlier built apart ih =>
    rw [attempted_concat]
    simpa [Entry.attempt?] using ih
  | attempt earlier built gated continued apart ih =>
    obtain ⟨r, parent, hbuilt⟩ := builtAttempt_of_ok built
    intro x hx
    rw [attempted_concat, List.mem_append] at hx
    rcases hx with hx | hx
    · exact ih x hx
    · simp only [Entry.attempt?, Option.toList, List.mem_singleton] at hx
      subst hx
      exact ⟨r, hbuilt.ref, hbuilt.parsed⟩

theorem Published.apart (h : Published admits history) :
    history.Pairwise (fun x y => Apart x.event y.event) := by
  induction h with
  | nil => exact List.Pairwise.nil
  | evaluate earlier built apart ih =>
    refine List.pairwise_append.mpr ⟨ih, List.pairwise_singleton _ _, ?_⟩
    intro x hx y hy
    rw [List.mem_singleton.mp hy]
    exact apart x hx
  | attempt earlier built gated continued apart ih =>
    refine List.pairwise_append.mpr ⟨ih, List.pairwise_singleton _ _, ?_⟩
    intro x hx y hy
    rw [List.mem_singleton.mp hy]
    exact apart x hx

end Streams

end SemanticGate

end TraceBackedMemory
