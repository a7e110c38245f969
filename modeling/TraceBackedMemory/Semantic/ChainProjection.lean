import Mathlib.Data.List.Pairwise
import TraceBackedMemory.Semantic.Chains

namespace TraceBackedMemory

open Text Raising Projection Replay

namespace SemanticGate

variable {sha : Sha256} {hash : ContentHash} {admits : EventEnvelope → Except GateError Unit}
  {history : List (Entry sha hash)} {b : BundleFields sha hash} {e : CanonicalEvent sha}
  {r : AttemptEventRef} {x y : Attempted sha hash}

section Parents

-- What the builder knows of the event an attempt is caused by.
structure FirstBuilt (b : BundleFields sha hash) (e parent : CanonicalEvent sha)
    (g : GateEvidenceRecordRef) : Prop where
  sequence : b.attempt.sequence = 1
  parsed : parseGateEvidenceEvent sha parent.toEventEnvelope = .ok g
  recordId : g.recordId = b.attempt.systemGateEvaluationId
  session : g.sessionId = b.attempt.sessionId
  retrieval : g.retrievalSnapshotId = some b.attempt.retrievalSnapshotId
  eventId : parent.eventId =
    gateEvidenceEventId sha systemGateEvaluatedEvent b.attempt.systemGateEvaluationId

structure RetryBuilt (b : BundleFields sha hash) (streamId : Str) (e parent : CanonicalEvent sha)
    (p : AttemptEventRef) : Prop where
  later : b.attempt.sequence ≠ 1
  parsed : parseSemanticGateAttemptEvent sha parent.toEventEnvelope = .ok p
  attemptId : some p.attemptId = b.attempt.previousAttemptId
  stream : p.streamId = streamId
  sequence : p.sequence + 1 = b.attempt.sequence
  previous : e.previousStreamEventSha256 = some parent.eventSha256

theorem BuiltAttempt.parent_cases {systemGateEvent previousEvent : Option (CanonicalEvent sha)}
    {c : EventTrustedContext} {parent : CanonicalEvent sha}
    (h : BuiltAttempt b systemGateEvent previousEvent c e r parent) :
    eventScope parent.toEventEnvelope = eventScope e.toEventEnvelope ∧
      ((systemGateEvent = some parent ∧ ∃ g, FirstBuilt b e parent g) ∨
        (previousEvent = some parent ∧ ∃ p, RetryBuilt b r.streamId e parent p)) := by
  have hcaused := h.caused
  have hprevious := h.previous
  rw [causationParent] at hcaused
  rw [previousEventSha256] at hprevious
  rw [h.scope_eq]
  by_cases hone : b.attempt.sequence = 1
  · rw [if_pos hone] at hcaused hprevious
    simp only [verifySemanticGateSystemParent, verifySemanticGateEventScope, bind_eq_ok, exists_unit,
      raiseIf_eq_ok, demand_eq_ok, pure_eq_ok, not_or, ne_eq, not_not] at hcaused
    obtain ⟨-, p, hp, ⟨g, hg, ⟨-, hrecord, hsession, hretrieval, hid⟩, hscope⟩, rfl⟩ := hcaused
    refine ⟨hscope, .inl ⟨hp, g, hone, ?_, hrecord, hsession, hretrieval, hid⟩⟩
    simp only [parsedSystemParent] at hg
    split at hg
    · rename_i hparsed
      cases hg
      exact hparsed
    · cases hg
  · rw [if_neg hone] at hcaused hprevious
    simp only [verifyPreviousEvent, verifySemanticGateEventScope, bind_eq_ok, exists_unit,
      raiseIf_eq_ok, demand_eq_ok, pure_eq_ok, not_or, ne_eq, not_not] at hcaused
    obtain ⟨-, p, hp, ⟨hscope, ref, href, hid, hstream, hsequence⟩, rfl⟩ := hcaused
    exact ⟨hscope, .inr ⟨hp, ref, hone, href, hid, hstream, hsequence, hprevious⟩⟩

end Parents

section Sequences

theorem mem_history_of_attempted (h : x ∈ attempted history) : ∃ entry ∈ history, entry.event = x.2 :=
  ⟨.attempted x.1 x.2, mem_attempted.mp h, rfl⟩

theorem streamOf_evaluated {evaluation : SystemGateEvaluation sha} (id : Str) :
    streamOf (history ++ [.evaluated evaluation e]) id = streamOf history id := by
  rw [streamOf, attempted_concat, List.filter_append]
  exact List.append_nil _

theorem streamOf_attempted (id : Str) :
    streamOf (history ++ [.attempted b e]) id =
      streamOf history id ++ if e.streamId = id then [(b, e)] else [] := by
  rw [streamOf, attempted_concat, List.filter_append]
  by_cases hid : e.streamId = id
  · simp [streamOf, Entry.attempt?, hid]
  · simp [streamOf, Entry.attempt?, hid]

variable {systemGateEvent previousEvent : Option (CanonicalEvent sha)} {c : EventTrustedContext}
  {parent : CanonicalEvent sha}

-- A sequence not yet in its stream, whose predecessor is, can only be the next one.
theorem BuiltAttempt.next_sequence
    (hbuilt : BuiltAttempt b systemGateEvent previousEvent c e r parent)
    (hhistory : Published admits history)
    (continued : ∀ p, previousEvent = some p → ∃ bundle, .attempted bundle p ∈ history)
    (apart : ∀ entry ∈ history, Apart entry.event e)
    (hsequences : (streamOf history e.streamId).map (fun x => x.1.attempt.sequence) =
      List.range' 1 (streamOf history e.streamId).length) :
    b.attempt.sequence = 1 + (streamOf history e.streamId).length := by
  have hrecorded : RecordedAttempt b e r := ⟨hbuilt.ref, hbuilt.parsed⟩
  have hfresh : b.attempt.sequence ∉ List.range' 1 (streamOf history e.streamId).length := by
    rw [← hsequences]
    intro hmem
    obtain ⟨x, hx, hsequence⟩ := List.mem_map.mp hmem
    obtain ⟨hattempted, hstream⟩ := mem_streamOf.mp hx
    obtain ⟨entry, hentry, hevent⟩ := mem_history_of_attempted hattempted
    obtain ⟨rx, hrx⟩ := hhistory.recorded x hattempted
    refine (apart entry hentry).2 ⟨?_, ?_⟩
    · rw [hevent, hstream]
    · rw [hevent, hrx.version, hrecorded.version, hsequence]
  have hbound : b.attempt.sequence ≤ 1 + (streamOf history e.streamId).length := by
    obtain ⟨-, ⟨-, g, hfirst⟩ | ⟨hp, p, hretry⟩⟩ := hbuilt.parent_cases
    · rw [hfirst.sequence]
      exact Nat.le_add_right ..
    · obtain ⟨b', hb'⟩ := continued parent hp
      have hattempted : (b', parent) ∈ attempted history := mem_attempted.mpr hb'
      obtain ⟨rp, hrp⟩ := hhistory.recorded _ hattempted
      obtain rfl : rp = p := Except.ok.inj (hrp.parsed.symm.trans hretry.parsed)
      have hstream : parent.streamId = e.streamId := by
        rw [(parsedAttempt_of_ok hretry.parsed).stream, hretry.stream,
          (parsedAttempt_of_ok hbuilt.parsed).stream]
      have hmem : b'.attempt.sequence ∈ List.range' 1 (streamOf history e.streamId).length := by
        rw [← hsequences]
        exact List.mem_map.mpr ⟨_, mem_streamOf.mpr ⟨hattempted, hstream⟩, rfl⟩
      have hsequence : b'.attempt.sequence + 1 = b.attempt.sequence := by
        rw [← hretry.sequence, hrp.fields]
        rfl
      have hrange := List.mem_range'_1.mp hmem
      omega
  have hpositive := hrecorded.positive
  by_contra hne
  refine hfresh (List.mem_range'_1.mpr ⟨hpositive, ?_⟩)
  omega

-- The attempts of a stream stand in the history in the order of their sequences.
theorem Published.sequences (h : Published admits history) (id : Str) :
    (streamOf history id).map (fun x => x.1.attempt.sequence) =
      List.range' 1 (streamOf history id).length := by
  induction h with
  | nil => rfl
  | evaluate earlier built apart ih =>
    rw [streamOf_evaluated]
    exact ih
  | @attempt history b systemGateEvent previousEvent position c e earlier built gated continued apart ih =>
    obtain ⟨r, parent, hbuilt⟩ := builtAttempt_of_ok built
    rw [streamOf_attempted]
    by_cases hid : e.streamId = id
    · subst hid
      have hnext := hbuilt.next_sequence earlier continued apart ih
      rw [if_pos rfl, List.map_append, List.length_append, ih, List.map_singleton, hnext,
        List.length_singleton, List.range'_concat, Nat.one_mul]
    · rw [if_neg hid, List.append_nil]
      exact ih

end Sequences

section Consistency

-- One stream carries the attempts of one evaluation of one session.
def Consistent (history : List (Entry sha hash)) : Prop :=
  ∀ x ∈ attempted history, ∀ y ∈ attempted history, x.2.streamId = y.2.streamId →
    x.1.attempt.systemGateEvaluationId = y.1.attempt.systemGateEvaluationId ∧
      x.1.attempt.sessionId = y.1.attempt.sessionId ∧
      x.1.attempt.retrievalSnapshotId = y.1.attempt.retrievalSnapshotId

instance symmApart : Std.Symm (fun x y : Attempted sha hash => Apart x.2 y.2) :=
  ⟨fun _ _ h => ⟨h.1.symm, fun hsame => h.2 ⟨hsame.1.symm, hsame.2.symm⟩⟩⟩

theorem Published.apart_attempted (h : Published admits history) :
    (attempted history).Pairwise (fun x y => Apart x.2 y.2) := by
  refine List.Pairwise.filterMap _ ?_ h.apart
  intro u v huv x hx y hy
  cases u with
  | evaluated evaluation e => cases hx
  | attempted b e =>
    cases v with
    | evaluated evaluation e' => cases hy
    | attempted b' e' =>
      cases hx
      cases hy
      exact huv

theorem Published.eq_of_version (h : Published admits history) (hx : x ∈ attempted history)
    (hy : y ∈ attempted history) (hstream : x.2.streamId = y.2.streamId)
    (hversion : x.2.streamVersion = y.2.streamVersion) : x = y := by
  by_contra hne
  exact (h.apart_attempted.forall hx hy hne).2 ⟨hstream, hversion⟩

theorem Published.stream_eq (h : Published admits history) (hx : x ∈ attempted history)
    (hy : y ∈ attempted history)
    (hsame : x.1.attempt.systemGateEvaluationId = y.1.attempt.systemGateEvaluationId) :
    x.2.streamId = y.2.streamId := by
  obtain ⟨rx, hrx⟩ := h.recorded x hx
  obtain ⟨ry, hry⟩ := h.recorded y hy
  have hstream := hrx.stream
  rw [hsame, hry.stream] at hstream
  exact (Except.ok.inj hstream).symm

structure ChainFacts (history : List (Entry sha hash)) (x : Attempted sha hash) (sessionId : Str)
    (retrievalSnapshotId : Str) : Prop where
  shared : ∀ y ∈ chainOf history x.1.attempt.systemGateEvaluationId,
    y.1.attempt.sessionId = sessionId ∧ y.1.attempt.retrievalSnapshotId = retrievalSnapshotId
  first : ∃ y ∈ chainOf history x.1.attempt.systemGateEvaluationId, y.1.attempt.sequence = 1

theorem ChainsAccepted.facts (h : ChainsAccepted history) (hx : x ∈ attempted history) :
    ∃ sessionId retrievalSnapshotId, ChainFacts history x sessionId retrievalSnapshotId := by
  obtain ⟨evaluation, -, snapshot, hverify⟩ := h x hx
  have hchain := soundChain_of_verify hverify
  refine ⟨evaluation.1.sessionId, snapshot.snapshotId, ?_, ?_⟩
  · intro y hy
    have hsound := hchain.sound _ (List.mem_map.mpr ⟨y, hy, rfl⟩)
    exact ⟨hsound.session.1, hsound.retrieval⟩
  · have hmem : x ∈ chainOf history x.1.attempt.systemGateEvaluationId := mem_chainOf.mpr ⟨hx, rfl⟩
    have hsequences := hchain.sequences
    rw [List.map_map, List.length_map] at hsequences
    have hone : 1 ∈ List.range' 1 (chainOf history x.1.attempt.systemGateEvaluationId).length := by
      have hpos := List.length_pos_of_mem hmem
      exact List.mem_range'_1.mpr ⟨le_refl 1, by omega⟩
    rw [← hsequences] at hone
    obtain ⟨y, hy, hsequence⟩ := List.mem_map.mp hone
    exact ⟨y, hy, hsequence⟩

theorem Published.consistent (h : Published admits history) (hchains : ChainsAccepted history) :
    Consistent history := by
  intro x hx y hy hstream
  obtain ⟨_, _, hfacts⟩ := hchains.facts hx
  obtain ⟨_, _, hfacts'⟩ := hchains.facts hy
  obtain ⟨x₁, hx₁, hone⟩ := hfacts.first
  obtain ⟨y₁, hy₁, hone'⟩ := hfacts'.first
  obtain ⟨hxa, hxe⟩ := mem_chainOf.mp hx₁
  obtain ⟨hya, hye⟩ := mem_chainOf.mp hy₁
  have hfirst : x₁ = y₁ := by
    obtain ⟨rx, hrx⟩ := h.recorded x₁ hxa
    obtain ⟨ry, hry⟩ := h.recorded y₁ hya
    refine h.eq_of_version hxa hya ?_ ?_
    · rw [h.stream_eq hxa hx hxe, hstream, h.stream_eq hya hy hye]
    · rw [hrx.version, hry.version, hone, hone']
  have hsame : x.1.attempt.systemGateEvaluationId = y.1.attempt.systemGateEvaluationId := by
    rw [← hxe, hfirst, hye]
  have hsx := hfacts.shared x (mem_chainOf.mpr ⟨hx, rfl⟩)
  have hsy := hfacts.shared y (mem_chainOf.mpr ⟨hy, hsame.symm⟩)
  exact ⟨hsame, hsx.1.trans hsy.1.symm, hsx.2.trans hsy.2.symm⟩

theorem Consistent.left {later : List (Entry sha hash)} (h : Consistent (history ++ later)) :
    Consistent history := by
  have hmem : ∀ x ∈ attempted history, x ∈ attempted (history ++ later) := by
    intro x hx
    rw [attempted, List.filterMap_append]
    exact List.mem_append_left _ hx
  exact fun x hx y hy => h x (hmem x hx) y (hmem y hy)

end Consistency

section Reproduction

def ParentShown (z : SystemGateEvaluation sha × CanonicalEvent sha) (entry : Str × SystemParent) : Prop :=
  ∃ r, parseGateEvidenceEvent sha z.2.toEventEnvelope = .ok r ∧
    entry = (z.1.evaluationId, systemParentProjection r z.2)

def AttemptShown (x : Attempted sha hash) (entry : Str × ProjectedAttempt) : Prop :=
  ∃ r, semanticGateAttemptEventRef x.1 = .ok r ∧
    entry = (x.1.attempt.attemptId, attemptProjection r x.2)

def StreamShown (x : Attempted sha hash) (stream : AttemptStream) : Prop :=
  ∃ r, semanticGateAttemptEventRef x.1 = .ok r ∧ stream = streamProjection r x.2

-- The state holds the history's evaluations and attempts, and the last attempt of each stream.
structure Reproduces (s : AttemptProjection) (history : List (Entry sha hash)) : Prop where
  parents : List.Forall₂ ParentShown (evaluations history) s.systemGateParents.entries
  attempts : List.Forall₂ AttemptShown (attempted history) s.attempts.entries
  streams : ∀ id, Option.Rel StreamShown (streamOf history id).getLast? (s.streams.get? id)
  heads : ∀ id, s.heads.get? id = (streamOf history id).getLast?.map (fun x => headProjection x.2)

theorem Reproduces.initial : Reproduces initialProjection ([] : List (Entry sha hash)) :=
  ⟨.nil, .nil, fun _ => .none, fun _ => rfl⟩

theorem Published.evaluation (h : Published admits history) :
    ∀ z ∈ evaluations history, ∃ r, EvaluationEvent z.1 z.2 r := by
  induction h with
  | nil => exact fun z hz => absurd hz List.not_mem_nil
  | evaluate earlier built apart ih =>
    intro z hz
    rw [evaluations_concat, List.mem_append] at hz
    rcases hz with hz | hz
    · exact ih z hz
    · simp only [Entry.evaluation?, Option.toList, List.mem_singleton] at hz
      subst hz
      exact ⟨_, built⟩
  | attempt earlier built gated continued apart ih =>
    rw [evaluations_concat]
    simpa [Entry.evaluation?] using ih

theorem forall₂_mem_right {α β : Type} {R : α → β → Prop} {l : List α} {m : List β}
    (h : List.Forall₂ R l m) {b : β} (hb : b ∈ m) : ∃ a ∈ l, R a b := by
  induction h with
  | nil => exact absurd hb List.not_mem_nil
  | @cons a b' l m hab hrest ih =>
    rcases List.mem_cons.mp hb with rfl | hb
    · exact ⟨a, List.mem_cons_self .., hab⟩
    · obtain ⟨a', ha', hr⟩ := ih hb
      exact ⟨a', List.mem_cons_of_mem _ ha', hr⟩

theorem forall₂_mem_left {α β : Type} {R : α → β → Prop} {l : List α} {m : List β}
    (h : List.Forall₂ R l m) {a : α} (ha : a ∈ l) : ∃ b ∈ m, R a b := by
  obtain ⟨b, hb, hr⟩ := forall₂_mem_right h.flip ha
  exact ⟨b, hb, hr⟩

theorem EvaluationEvent.eventId {evaluation : SystemGateEvaluation sha} {g : GateEvidenceRecordRef}
    (h : EvaluationEvent evaluation e g) :
    e.eventId = gateEvidenceEventId sha systemGateEvaluatedEvent evaluation.evaluationId := by
  rw [(evidenceParsed_of_ok h.parsed).eventId, h.eventType, h.recordId]

theorem EvaluationEvent.kind {evaluation : SystemGateEvaluation sha} {g : GateEvidenceRecordRef}
    (h : EvaluationEvent evaluation e g) : g.evidenceKind = .systemGateEvaluation := by
  have hkind := (evidenceParsed_of_ok h.parsed).kind
  rw [h.eventType] at hkind
  have hsystem : evidenceKind? systemGateEvaluatedEvent = some .systemGateEvaluation := by decide
  exact Option.some.inj (hkind.symm.trans hsystem)

theorem Reproduces.parent_fresh {s : AttemptProjection} (h : Reproduces s history)
    (hhistory : Published admits history) {evaluation : SystemGateEvaluation sha}
    {g : GateEvidenceRecordRef} (hevent : EvaluationEvent evaluation e g)
    (apart : ∀ entry ∈ history, Apart entry.event e) :
    s.systemGateParents.get? evaluation.evaluationId = none := by
  rw [Dict.get?_eq_none]
  intro hmem
  obtain ⟨entry, hentry, hkey⟩ := List.mem_map.mp hmem
  obtain ⟨z, hz, r, hr, rfl⟩ := forall₂_mem_right h.parents hentry
  obtain ⟨g', hg'⟩ := hhistory.evaluation z hz
  refine (apart _ (mem_evaluations.mp hz)).1 ?_
  rw [hevent.eventId]
  have hkey' : z.1.evaluationId = evaluation.evaluationId := hkey
  rw [← hkey']
  exact hg'.eventId

theorem Reproduces.attempt_fresh {s : AttemptProjection} (h : Reproduces s history)
    (hhistory : Published admits history) (hrecorded : RecordedAttempt b e r)
    (apart : ∀ entry ∈ history, Apart entry.event e) : s.attempts.get? b.attempt.attemptId = none := by
  rw [Dict.get?_eq_none]
  intro hmem
  obtain ⟨entry, hentry, hkey⟩ := List.mem_map.mp hmem
  obtain ⟨x, hx, rx, hrx, rfl⟩ := forall₂_mem_right h.attempts hentry
  obtain ⟨rx', hrx'⟩ := hhistory.recorded x hx
  refine (apart _ (mem_attempted.mp hx)).1 ?_
  have hkey' : x.1.attempt.attemptId = b.attempt.attemptId := hkey
  have hid := hrx'.eventId
  rw [hkey', hrecorded.eventId] at hid
  exact (Except.ok.inj hid).symm

-- The predecessor of the next attempt of a stream is the last one there.
theorem Published.last_of_sequence (h : Published admits history) {id : Str} (hx : x ∈ streamOf history id)
    (hlast : x.1.attempt.sequence = (streamOf history id).length) :
    (streamOf history id).getLast? = some x := by
  obtain ⟨i, hi, hget⟩ := List.getElem_of_mem hx
  have hsequence := congrArg (fun l => l[i]?) (h.sequences id)
  simp only [List.getElem?_map, List.getElem?_eq_getElem hi, hget, Option.map_some,
    List.getElem?_range' hi] at hsequence
  have hindex := Option.some.inj hsequence
  rw [List.getLast?_eq_getElem?]
  have hlength : (streamOf history id).length - 1 = i := by omega
  rw [hlength, List.getElem?_eq_getElem hi, hget]

end Reproduction

section Steps

variable {s : AttemptProjection} {event : ReducerEvent sha}

theorem Reproduces.evaluate (h : Reproduces s history) (hhistory : Published admits history)
    {evaluation : SystemGateEvaluation sha} {g : GateEvidenceRecordRef}
    (hevent : EvaluationEvent evaluation e g) (apart : ∀ entry ∈ history, Apart entry.event e)
    (hsource : event.sourceEvent = e) (htyped : verifyTyped event = .ok ()) :
    ∃ s', transition s event = .ok s' ∧ Reproduces s' (history ++ [.evaluated evaluation e]) := by
  have hfresh := h.parent_fresh hhistory hevent apart
  rw [← hevent.recordId] at hfresh
  refine ⟨{ s with systemGateParents :=
      s.systemGateParents.set g.recordId (systemParentProjection g e) }, ?_, ?_, ?_, ?_, ?_⟩
  · rw [transition, htyped, hsource]
    show (if _ then _ else _) = _
    rw [if_pos hevent.eventType, applySystemGate, parsedEvidence, hevent.parsed]
    have hnew : ¬(g.evidenceKind ≠ .systemGateEvaluation ∨
        s.systemGateParents.contains g.recordId = true) := by
      rw [hevent.kind, Dict.contains, hfresh]
      simp
    show (raiseIf _ _ >>= _) = _
    rw [raiseIf_of_not hnew]
    rfl
  · rw [evaluations_concat, Dict.entries_set_of_none _ hfresh]
    refine List.rel_append h.parents (.cons ⟨g, hevent.parsed, ?_⟩ .nil)
    rw [hevent.recordId]
  · rw [attempted_concat]
    exact (List.append_nil (attempted history)).symm ▸ h.attempts
  · intro id
    rw [streamOf_evaluated]
    exact h.streams id
  · intro id
    rw [streamOf_evaluated]
    exact h.heads id

theorem Reproduces.recordAttempt (h : Reproduces s history) (hrecorded : RecordedAttempt b e r)
    (hfresh : s.attempts.get? b.attempt.attemptId = none) :
    Reproduces (recordAttempt s r e) (history ++ [.attempted b e]) := by
  have hattempt : r.attemptId = b.attempt.attemptId := by
    rw [hrecorded.fields]
    rfl
  have hstream := (parsedAttempt_of_ok hrecorded.parsed).stream
  refine ⟨?_, ?_, ?_, ?_⟩
  · rw [evaluations_concat]
    exact (List.append_nil (evaluations history)).symm ▸ h.parents
  · rw [attempted_concat]
    show List.Forall₂ _ _ (s.attempts.set r.attemptId _).entries
    rw [← hattempt] at hfresh
    rw [Dict.entries_set_of_none _ hfresh]
    refine List.rel_append h.attempts (.cons ⟨r, hrecorded.ref, ?_⟩ .nil)
    rw [hattempt]
  · intro id
    show Option.Rel _ _ ((s.streams.set r.streamId _).get? id)
    rw [streamOf_attempted, Dict.get?_set]
    by_cases hid : e.streamId = id
    · rw [if_pos hid, if_pos (hid.symm.trans hstream), List.getLast?_concat]
      exact .some ⟨r, hrecorded.ref, rfl⟩
    · rw [if_neg hid, if_neg (fun heq => hid (hstream.trans heq.symm)), List.append_nil]
      exact h.streams id
  · intro id
    show (s.heads.set r.streamId _).get? id = _
    rw [streamOf_attempted, Dict.get?_set]
    by_cases hid : e.streamId = id
    · rw [if_pos hid, if_pos (hid.symm.trans hstream), List.getLast?_concat]
      rfl
    · rw [if_neg hid, if_neg (fun heq => hid (hstream.trans heq.symm)), List.append_nil]
      exact h.heads id

theorem CheckedRef.first_causation (h : CheckedRef sha r) (hone : r.sequence = 1) :
    r.causationEventId = gateEvidenceEventId sha systemGateEvaluatedEvent r.systemGateEvaluationId := by
  have hcausation := h.causation
  rw [AttemptEventRef.expectedCausation, if_pos hone] at hcausation
  simp only [systemGateEventId, bind_eq_ok, exists_unit, pure_eq_ok] at hcausation
  exact hcausation.2.2.symm

theorem CheckedRef.retry_causation (h : CheckedRef sha r) (hlater : r.sequence ≠ 1) :
    ∃ previous, r.previousAttemptId = some previous ∧
      attemptEventId sha previous = .ok r.causationEventId := by
  have hcausation := h.causation
  rw [AttemptEventRef.expectedCausation, if_neg hlater] at hcausation
  simp only [bind_eq_ok, demand_eq_ok] at hcausation
  obtain ⟨previous, hprevious, hid⟩ := hcausation
  exact ⟨previous, Option.eq_some_of_filter_eq_some hprevious, hid⟩

variable {systemGateEvent previousEvent : Option (CanonicalEvent sha)} {c : EventTrustedContext}
  {parent : CanonicalEvent sha}

theorem Reproduces.verifyFirst (h : Reproduces s history) (hhistory : Published admits history)
    (hbuilt : BuiltAttempt b systemGateEvent previousEvent c e r parent)
    {g : GateEvidenceRecordRef} (hfirst : FirstBuilt b e parent g)
    (hscope : eventScope parent.toEventEnvelope = eventScope e.toEventEnvelope)
    {evaluation : SystemGateEvaluation sha} (hgated : .evaluated evaluation parent ∈ history)
    (hnone : streamOf history e.streamId = []) : verifyFirstAttempt s r e = .ok () := by
  have hfields := (RecordedAttempt.mk hbuilt.ref hbuilt.parsed).fields
  have hparsed := parsedAttempt_of_ok hbuilt.parsed
  have hmem : (evaluation, parent) ∈ evaluations history := mem_evaluations.mpr hgated
  obtain ⟨g', hg'⟩ := hhistory.evaluation _ hmem
  obtain rfl : g' = g := Except.ok.inj (hg'.parsed.symm.trans hfirst.parsed)
  have hparent : s.systemGateParents.get? r.systemGateEvaluationId =
      some (systemParentProjection g' parent) := by
    obtain ⟨entry, hentry, g₂, hg₂, rfl⟩ := forall₂_mem_left h.parents hmem
    obtain rfl : g₂ = g' := Except.ok.inj (hg₂.symm.trans hfirst.parsed)
    have hkey : r.systemGateEvaluationId = evaluation.evaluationId := by
      rw [hfields, ← hg'.recordId]
      exact hfirst.recordId.symm
    rw [hkey, Dict.get?_eq_some]
    exact hentry
  have hsequence : r.sequence = 1 := by
    rw [hfields]
    exact hfirst.sequence
  have hcausation : parent.eventId = r.causationEventId := by
    rw [hparsed.checked.first_causation hsequence, hfirst.eventId, hfields]
    rfl
  have hstream : s.streams.get? r.streamId = none := by
    have hrel := h.streams e.streamId
    rw [hnone, hparsed.stream, List.getLast?_nil] at hrel
    cases hget : s.streams.get? r.streamId with
    | none => rfl
    | some stream =>
      rw [hget] at hrel
      cases hrel
  have hhead : s.heads.get? r.streamId = none := by
    have heq := h.heads e.streamId
    rw [hnone, hparsed.stream] at heq
    exact heq
  have hsession : g'.sessionId = r.sessionId := by
    rw [hfields]
    exact hfirst.session
  have hretrieval : g'.retrievalSnapshotId = some r.retrievalSnapshotId := by
    rw [hfields]
    exact hfirst.retrieval
  simp only [verifyFirstAttempt, bind_eq_ok, demand_eq_ok, raiseIf_eq_ok, not_or, Dict.contains, hparent,
    hstream, hhead]
  refine ⟨_, rfl, Bool.noConfusion, Bool.noConfusion, ?_⟩
  exact ⟨not_not.mpr hsession, not_not.mpr hretrieval, not_not.mpr hcausation, not_le.mpr hbuilt.position,
    not_not.mpr hscope⟩

theorem Reproduces.verifyRetry (h : Reproduces s history) (hhistory : Published admits history)
    (hbuilt : BuiltAttempt b systemGateEvent previousEvent c e r parent)
    {p : AttemptEventRef} (hretry : RetryBuilt b r.streamId e parent p)
    (hscope : eventScope parent.toEventEnvelope = eventScope e.toEventEnvelope)
    {b' : BundleFields sha hash} (hcontinued : .attempted b' parent ∈ history)
    (hnext : b.attempt.sequence = 1 + (streamOf history e.streamId).length)
    (hsame : b'.attempt.systemGateEvaluationId = b.attempt.systemGateEvaluationId ∧
      b'.attempt.sessionId = b.attempt.sessionId ∧
      b'.attempt.retrievalSnapshotId = b.attempt.retrievalSnapshotId) :
    SemanticGate.verifyRetry s r e = .ok () := by
  have hfields := (RecordedAttempt.mk hbuilt.ref hbuilt.parsed).fields
  have hparsed := parsedAttempt_of_ok hbuilt.parsed
  have hmem : (b', parent) ∈ attempted history := mem_attempted.mpr hcontinued
  obtain ⟨p', hp'⟩ := hhistory.recorded _ hmem
  obtain rfl : p' = p := Except.ok.inj (hp'.parsed.symm.trans hretry.parsed)
  have hstream : parent.streamId = e.streamId := by
    rw [(parsedAttempt_of_ok hretry.parsed).stream, hretry.stream, hparsed.stream]
  have hsequence : p'.sequence + 1 = r.sequence := by
    rw [hretry.sequence, hfields]
    rfl
  have hlast : (streamOf history e.streamId).getLast? = some (b', parent) := by
    refine hhistory.last_of_sequence (mem_streamOf.mpr ⟨hmem, hstream⟩) ?_
    have hlength := hretry.sequence
    rw [hp'.fields] at hlength
    have hlength' : b'.attempt.sequence + 1 = b.attempt.sequence := hlength
    show b'.attempt.sequence = _
    omega
  have hshown : s.streams.get? r.streamId = some (streamProjection p' parent) := by
    have hrel := h.streams e.streamId
    rw [hlast, hparsed.stream] at hrel
    cases hget : s.streams.get? r.streamId with
    | none =>
      rw [hget] at hrel
      cases hrel
    | some stream =>
      rw [hget] at hrel
      obtain ⟨p₂, hp₂, rfl⟩ : StreamShown (b', parent) stream := by
        cases hrel
        assumption
      obtain rfl : p₂ = p' := Except.ok.inj (hp₂.symm.trans hp'.ref)
      rfl
  have hhead : s.heads.get? r.streamId = some (headProjection parent) := by
    have heq := h.heads e.streamId
    rw [hlast, hparsed.stream] at heq
    exact heq
  obtain ⟨previous, hprevious, hid⟩ := hparsed.checked.retry_causation (by
    rw [hfields]
    exact hretry.later)
  have hattempt : some p'.attemptId = r.previousAttemptId := by
    rw [hretry.attemptId, hfields]
    rfl
  have hcausation : parent.eventId = r.causationEventId := by
    have hparent := (parsedAttempt_of_ok hretry.parsed).eventId
    rw [hprevious] at hattempt
    rw [Option.some.inj hattempt, hid] at hparent
    exact (Except.ok.inj hparent).symm
  simp only [SemanticGate.verifyRetry, bind_eq_ok, demand_eq_ok, raiseIf_eq_ok, not_or, hshown, hhead]
  refine ⟨_, rfl, _, rfl, ?_, ?_, ?_, ?_, ?_, ?_, ?_, ?_, ?_⟩
  · rw [hp'.fields, hfields]
    exact not_not.mpr hsame.2.1
  · rw [hp'.fields, hfields]
    exact not_not.mpr hsame.2.2
  · rw [hp'.fields, hfields]
    exact not_not.mpr hsame.1
  · refine not_not.mpr ?_
    show (p'.sequence : Int) = _
    omega
  · exact not_not.mpr hattempt
  · exact not_not.mpr hcausation
  · rw [hretry.previous]
    exact not_not.mpr rfl
  · exact not_le.mpr hbuilt.position
  · exact not_not.mpr hscope

theorem attemptEventType_ne (status : AttemptStatus) :
    attemptEventType status ≠ systemGateEvaluatedEvent := by
  cases status with
  | succeeded => decide
  | failed => decide

theorem Reproduces.attempt (h : Reproduces s history) (hhistory : Published admits history)
    (hbuilt : BuiltAttempt b systemGateEvent previousEvent c e r parent)
    (gated : ∀ p, systemGateEvent = some p → ∃ evaluation, .evaluated evaluation p ∈ history)
    (continued : ∀ p, previousEvent = some p → ∃ bundle, .attempted bundle p ∈ history)
    (apart : ∀ entry ∈ history, Apart entry.event e)
    (hconsistent : Consistent (history ++ [.attempted b e])) (hsource : event.sourceEvent = e)
    (htyped : verifyTyped event = .ok ()) :
    ∃ s', transition s event = .ok s' ∧ Reproduces s' (history ++ [.attempted b e]) := by
  have hrecorded : RecordedAttempt b e r := ⟨hbuilt.ref, hbuilt.parsed⟩
  have hfresh := h.attempt_fresh hhistory hrecorded apart
  have hnext := hbuilt.next_sequence hhistory continued apart (hhistory.sequences e.streamId)
  have hsequence : r.sequence = b.attempt.sequence := by
    rw [hrecorded.fields]
    rfl
  have hlink : verifyChainLink s r e = .ok () := by
    rw [verifyChainLink, hsequence]
    obtain ⟨hscope, ⟨hp, g, hfirst⟩ | ⟨hp, p, hretry⟩⟩ := hbuilt.parent_cases
    · obtain ⟨evaluation, hgated⟩ := gated parent hp
      rw [if_pos hfirst.sequence]
      refine h.verifyFirst hhistory hbuilt hfirst hscope hgated ?_
      rw [hfirst.sequence] at hnext
      exact List.length_eq_zero_iff.mp (by omega)
    · obtain ⟨b', hcontinued⟩ := continued parent hp
      rw [if_neg hretry.later]
      refine h.verifyRetry hhistory hbuilt hretry hscope hcontinued hnext ?_
      refine hconsistent (b', parent) ?_ (b, e) ?_ ?_
      · exact mem_attempted.mpr (List.mem_append_left _ hcontinued)
      · exact mem_attempted.mpr (List.mem_append_right _ (List.mem_singleton.mpr rfl))
      · rw [(parsedAttempt_of_ok hretry.parsed).stream, hretry.stream,
          (parsedAttempt_of_ok hbuilt.parsed).stream]
  refine ⟨SemanticGate.recordAttempt s r e, ?_, h.recordAttempt hrecorded hfresh⟩
  have hattempt : r.attemptId = b.attempt.attemptId := by
    rw [hrecorded.fields]
    rfl
  have hnew : ¬s.attempts.contains r.attemptId = true := by
    rw [hattempt, Dict.contains, hfresh]
    exact Bool.noConfusion
  have hother : e.eventType ≠ systemGateEvaluatedEvent := by
    rw [hbuilt.eventType]
    exact attemptEventType_ne r.status
  rw [transition, htyped, hsource]
  show (if _ then _ else _) = _
  rw [if_neg hother, applyAttempt, parsedAttempt, hbuilt.parsed]
  show (raiseIf _ _ >>= _) = _
  rw [raiseIf_of_not hnew]
  show (verifyChainLink s r e >>= _) = _
  rw [hlink]
  rfl

theorem Published.reproduces (h : Published admits history) (hconsistent : Consistent history) :
    ∀ events : List (ReducerEvent sha), events.map ReducerEvent.sourceEvent = history.map Entry.event →
      (∀ event ∈ events, verifyTyped event = .ok ()) →
        ∃ s, accumulate transition initialProjection events = .ok s ∧ Reproduces s history := by
  induction h with
  | nil =>
    intro events hsources _
    rw [List.map_eq_nil_iff.mp hsources]
    exact ⟨_, rfl, Reproduces.initial⟩
  | evaluate earlier built apart ih =>
    intro events hsources htyped
    rw [List.map_append] at hsources
    obtain ⟨before, last, rfl, hbefore, hlast⟩ := List.map_eq_append_iff.mp hsources
    obtain ⟨event, rfl, hsource⟩ := List.map_eq_singleton_iff.mp hlast
    obtain ⟨s, hfold, hs⟩ := ih hconsistent.left before hbefore fun x hx =>
      htyped x (List.mem_append_left _ hx)
    obtain ⟨s', hstep, hs'⟩ := hs.evaluate earlier built apart hsource
      (htyped event (List.mem_append_right _ (List.mem_singleton.mpr rfl)))
    refine ⟨s', ?_, hs'⟩
    rw [accumulate_append, hfold]
    show (transition s event >>= _) = _
    rw [hstep]
    rfl
  | attempt earlier built gated continued apart ih =>
    intro events hsources htyped
    obtain ⟨r, parent, hbuilt⟩ := builtAttempt_of_ok built
    rw [List.map_append] at hsources
    obtain ⟨before, last, rfl, hbefore, hlast⟩ := List.map_eq_append_iff.mp hsources
    obtain ⟨event, rfl, hsource⟩ := List.map_eq_singleton_iff.mp hlast
    obtain ⟨s, hfold, hs⟩ := ih hconsistent.left before hbefore fun x hx =>
      htyped x (List.mem_append_left _ hx)
    obtain ⟨s', hstep, hs'⟩ := hs.attempt earlier hbuilt gated continued apart hconsistent hsource
      (htyped event (List.mem_append_right _ (List.mem_singleton.mpr rfl)))
    refine ⟨s', ?_, hs'⟩
    rw [accumulate_append, hfold]
    show (transition s event >>= _) = _
    rw [hstep]
    rfl

def retainedChain (s : AttemptProjection) (evaluationId : Str) : List (Str × ProjectedAttempt) :=
  s.attempts.entries.filter (fun entry => decide (entry.2.record.systemGateEvaluationId = evaluationId))

theorem Reproduces.chain (h : Reproduces s history) (evaluationId : Str) :
    List.Forall₂ AttemptShown (chainOf history evaluationId) (retainedChain s evaluationId) := by
  refine List.rel_filter ?_ h.attempts
  rintro x entry ⟨r, hr, rfl⟩
  have hfields := (eventRef_of_ok hr).1
  have hsame : r.systemGateEvaluationId = x.1.attempt.systemGateEvaluationId := by
    rw [hfields]
    rfl
  simp [attemptProjection, hsame]

end Steps

section Soundness

theorem semantic_chains_sound (sha : Sha256) (hash : ContentHash)
    (admits : EventEnvelope → Except GateError Unit) :
    (∀ (attempts : List (SemanticGateAttempt sha)) e snapshot,
      verifySemanticGateAttemptChain attempts e snapshot = .ok () → SoundChain attempts e snapshot) ∧
    ∀ history : List (Entry sha hash), Published admits history → ChainsAccepted history →
      ∀ events : List (ReducerEvent sha),
        events.map ReducerEvent.sourceEvent = history.map Entry.event →
        (∀ event ∈ events, verifyTyped event = .ok ()) →
          ∃ s, accumulate transition initialProjection events = .ok s ∧ Reproduces s history ∧
            ∀ evaluationId,
              List.Forall₂ AttemptShown (chainOf history evaluationId) (retainedChain s evaluationId) := by
  refine ⟨fun attempts e snapshot => soundChain_of_verify, ?_⟩
  intro history hhistory hchains events hsources htyped
  obtain ⟨s, hfold, hs⟩ := hhistory.reproduces (hhistory.consistent hchains) events hsources htyped
  exact ⟨s, hfold, hs, hs.chain⟩

end Soundness

section Sample
def sampleEvaluationContent : EvaluationContent where
  sessionId := lit "session_1"
  retrievalSnapshotId := lit "retrieval_snapshot_sha256_" ++ List.replicate 64 (cp 'a')
  authorizationEventId := lit "authz_sha256_" ++ List.replicate 64 (cp 'b')
  policyBundleSha256 := sampleDigest 'c'
  evaluatorId := lit "evaluator_1"
  evaluatorVersion := lit "1"
  decisions := []
  evaluatedAt := sampleTime

def sampleEvaluation : SystemGateEvaluation sampleSha :=
  ⟨sampleEvaluationContent, _, by decide, rfl⟩

def sampleSnapshot : RetrievalSnapshot :=
  ⟨sampleEvaluation.retrievalSnapshotId, sampleEvaluation.sessionId,
    sampleEvaluation.authorizationEventId, [], sampleTime⟩

def sampleAttemptContent : AttemptContent where
  sessionId := sampleEvaluation.sessionId
  retrievalSnapshotId := sampleEvaluation.retrievalSnapshotId
  systemGateEvaluationId := sampleEvaluation.evaluationId
  sequence := 1
  previousAttemptId := none
  providerId := lit "provider_1"
  modelId := lit "model_1"
  modelVersion := lit "1"
  endpointId := none
  promptTemplateId := lit "template_1"
  promptTemplateVersion := lit "1"
  promptArtifactSha256 := sampleHash.digest [104, 105]
  responseArtifactSha256 := none
  generationConfigSha256 := sampleDigest 'd'
  providerRequestId := none
  status := .failed
  decisionId := none
  finalAllowedRevisionIds := []
  finalBlockedRevisionIds := []
  reason := none
  risk := none
  recommendedInjection := none
  errorCode := some (lit "TIMEOUT")
  inputTokens := none
  outputTokens := none
  latencyMs := 5
  startedAt := sampleTime
  finishedAt := sampleTime

set_option maxRecDepth 20000 in
def sampleAttempt : SemanticGateAttempt sampleSha :=
  ⟨sampleAttemptContent, _, by decide +kernel, rfl⟩

def samplePrompt : Except GateError (StoredSemanticGateArtifact sampleHash) := do
  let artifact ← createContentAddressedArtifact sampleHash [104, 105] promptMediaType .internal
    sampleTime none
  let binding ← BindingFields.accept ⟨.prompt, sampleAttempt.attemptId, artifact⟩
  StoredFields.accept sampleHash ⟨binding, [104, 105]⟩

def sampleContext : EventTrustedContext :=
  ⟨samplePartition.organizationId, samplePartition.tenantId, samplePartition.repositoryId,
    samplePartition.environmentId, sampleAccess.principalId, sampleAccess.agentClientId,
    sampleAccess.actorType, sampleAccess.actorId, sampleAccess.authorizationDecisionId⟩

def sampleGateRef : GateEvidenceRecordRef where
  evidenceKind := .systemGateEvaluation
  recordId := sampleEvaluation.evaluationId
  sessionId := sampleEvaluation.sessionId
  authorizationEventId := sampleContext.authorizationDecisionId
  retrievalSnapshotId := some sampleEvaluation.retrievalSnapshotId
  artifactRef := ⟨artifactIdFromSha256 (sampleDigest 'e'), sampleDigest 'e', lit "application/json", 1,
    .internal, GateEvents.retentionPolicyId, none, .available⟩
  occurredAt := sampleTime.text
  causationEventId := some (lit "evt_retrieval_1")

def sampleGateEnvelope : EventEnvelope :=
  let r := sampleGateRef
  let identity := evidenceIdentitySha256 sampleSha systemGateEvaluatedEvent r.recordId
  { sampleEnvelope (gateEvidenceEventId sampleSha systemGateEvaluatedEvent r.recordId) 1 1 'a' none
      .internal with
    eventType := systemGateEvaluatedEvent
    streamId := r.recordId
    streamType := lit "gate_evidence"
    requestId := lit "evidence_request_" ++ (GateEvents.removeTag identity).take 48
    idempotencyKeySha256 := identity
    requestSha256 := evidenceCommandSha256 sampleSha systemGateEvaluatedEvent r
    correlationId := evidenceCorrelationId sampleSha r.sessionId
    causationId := r.causationEventId
    producer := GateEvents.producerName
    producerVersion := GateEvents.producerVersionText
    payloadSchema := systemGateEvaluatedEvent ++ lit ".v1"
    retentionPolicyId := GateEvents.retentionPolicyId
    artifactRefs := [r.artifactRef]
    payload := .obj r.fields }

def sampleGateEvent : CanonicalEvent sampleSha :=
  sampleGateEnvelope.sign sampleSha (by decide) (by decide) (by decide)

def sampleInput (e : CanonicalEvent sampleSha) : ReducerEvent sampleSha :=
  ⟨e, some ⟨e.eventType, 1, e.payload⟩⟩

structure SampleRun where
  bundle : BundleFields sampleSha sampleHash
  event : CanonicalEvent sampleSha

def sampleRun : Except GateError SampleRun := do
  let prompt ← samplePrompt
  let bundle : BundleFields sampleSha sampleHash := ⟨sampleAttempt, prompt, none⟩
  let event ← buildSemanticGateAttemptEvent (fun _ => .ok ()) bundle (some sampleGateEvent) none 2
    sampleContext
  raiseIf (sampleGateEvent.eventId = event.eventId ∨ sampleGateEvent.streamId = event.streamId ∨
      event.payload.pyEq event.payload = false ∨
      sampleGateEvent.payload.pyEq sampleGateEvent.payload = false)
    (invalidAttemptEvent "the sample events clash")
  verifySemanticGateAttemptChain [sampleAttempt] sampleEvaluation sampleSnapshot
  return ⟨bundle, event⟩

def SampleRun.entries (run : SampleRun) : List (Entry sampleSha sampleHash) :=
  [.evaluated sampleEvaluation sampleGateEvent, .attempted run.bundle run.event]

def completes {α : Type} (x : Except GateError α) : Bool := x.toOption.isSome

set_option maxRecDepth 20000 in
theorem sampleRun_completes : completes sampleRun = true := by
  decide +kernel

theorem exists_sampleRun : ∃ run, sampleRun = .ok run := by
  have hruns := sampleRun_completes
  rw [completes] at hruns
  cases hrun : sampleRun with
  | ok run => exact ⟨run, rfl⟩
  | error error =>
    rw [hrun] at hruns
    cases hruns

structure SampleFacts (run : SampleRun) : Prop where
  built : buildSemanticGateAttemptEvent (fun _ => .ok ()) run.bundle (some sampleGateEvent) none 2
    sampleContext = .ok run.event
  attempt : run.bundle.attempt = sampleAttempt
  apart : Apart sampleGateEvent run.event
  typed : ∀ event ∈ run.entries.map (fun entry => sampleInput entry.event), verifyTyped event = .ok ()
  verified : verifySemanticGateAttemptChain [sampleAttempt] sampleEvaluation sampleSnapshot = .ok ()

theorem sampleInput_typed {e : CanonicalEvent sampleSha} (h : e.payload.pyEq e.payload = true) :
    verifyTyped (sampleInput e) = .ok () := by
  have hsame : ¬(1 ≠ 1 ∨ e.eventType ≠ e.eventType ∨ e.payload.pyEq e.payload = false) := by
    simp [h]
  exact raiseIf_of_not hsame

theorem sampleFacts_of_run {run : SampleRun} (h : sampleRun = .ok run) : SampleFacts run := by
  simp only [sampleRun, bind_eq_ok, exists_unit, raiseIf_eq_ok, pure_eq_ok, not_or,
    Bool.not_eq_false] at h
  obtain ⟨prompt, -, event, hbuilt, ⟨hid, hstream, hpayload, hgate⟩, hverified, rfl⟩ := h
  refine ⟨hbuilt, rfl, ⟨hid, fun hsame => hstream hsame.1⟩, ?_, hverified⟩
  rw [SampleRun.entries, List.map_cons, List.map_singleton, List.forall_mem_cons, List.forall_mem_singleton]
  exact ⟨sampleInput_typed hgate, sampleInput_typed hpayload⟩

theorem SampleFacts.published {run : SampleRun} (h : SampleFacts run) :
    Published (fun _ => .ok ()) run.entries := by
  obtain ⟨r, parent, hbuilt⟩ := builtAttempt_of_ok h.built
  have hgate : ∃ g, EvaluationEvent sampleEvaluation sampleGateEvent g := by
    obtain ⟨-, ⟨hp, g, hfirst⟩ | ⟨hp, -⟩⟩ := hbuilt.parent_cases
    · obtain rfl := Option.some.inj hp
      refine ⟨g, hfirst.parsed, rfl, ?_, ?_, ?_⟩
      · rw [hfirst.recordId, h.attempt]
        rfl
      · rw [hfirst.session, h.attempt]
        rfl
      · rw [hfirst.retrieval, h.attempt]
        rfl
    · cases hp
  obtain ⟨g, hg⟩ := hgate
  have hfirst : Published (fun _ => .ok ()) [(.evaluated sampleEvaluation sampleGateEvent :
      Entry sampleSha sampleHash)] :=
    .evaluate .nil hg (List.forall_mem_nil _)
  refine hfirst.attempt h.built ?_ ?_ ?_
  · rintro p hp
    obtain rfl := Option.some.inj hp
    exact ⟨sampleEvaluation, List.mem_singleton.mpr rfl⟩
  · rintro p hp
    cases hp
  · rw [List.forall_mem_singleton]
    exact h.apart

theorem SampleFacts.accepted {run : SampleRun} (h : SampleFacts run) : ChainsAccepted run.entries := by
  have hattempted : attempted run.entries = [(run.bundle, run.event)] := rfl
  have hchain : chainOf run.entries sampleAttempt.systemGateEvaluationId = [(run.bundle, run.event)] := by
    rw [chainOf, hattempted, List.filter_singleton, h.attempt]
    simp
  intro x hx
  rw [hattempted, List.mem_singleton] at hx
  subst hx
  refine ⟨(sampleEvaluation, sampleGateEvent), List.mem_singleton.mpr rfl, sampleSnapshot, ?_⟩
  rw [h.attempt, hchain, List.map_singleton, h.attempt]
  exact h.verified

theorem semantic_chains_sound_sample : SoundChain [sampleAttempt] sampleEvaluation sampleSnapshot ∧
    ∃ run, sampleRun = .ok run ∧ ∃ s,
      accumulate transition initialProjection
        (run.entries.map (fun entry => sampleInput entry.event)) = .ok s ∧
      Reproduces s run.entries ∧ ∀ evaluationId,
        List.Forall₂ AttemptShown (chainOf run.entries evaluationId) (retainedChain s evaluationId) := by
  obtain ⟨run, hrun⟩ := exists_sampleRun
  have hfacts := sampleFacts_of_run hrun
  obtain ⟨hsound, hreproduces⟩ := semantic_chains_sound sampleSha sampleHash (fun _ => .ok ())
  refine ⟨hsound _ _ _ hfacts.verified, run, hrun, ?_⟩
  refine hreproduces run.entries hfacts.published hfacts.accepted _ ?_ hfacts.typed
  rw [List.map_map]
  rfl

end Sample

end SemanticGate

end TraceBackedMemory
