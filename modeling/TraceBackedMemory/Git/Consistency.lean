import TraceBackedMemory.Git.Steps
import TraceBackedMemory.Ledger.Interleaving

namespace TraceBackedMemory

open Text Raising Projection

namespace GitGraph

variable {sha : Sha256}

section Assertions

def observation? (event : ReducerEvent sha) : Option GitObservationRecordRef :=
  if event.sourceEvent.eventType ∈ gitObservationTypes then
    (parseGitObservation sha event.sourceEvent.toEventEnvelope).toOption
  else none

def assertedRelation (a d : Str) (r : GitObservationRecordRef) : Option AncestryRelation :=
  if r.details.observationKind = .ancestry ∧ r.details.ancestorSha = some a ∧
      r.details.descendantSha = some d then r.details.relation
  else none

def observedAvailability (t : ObjectType) (o : Str) (r : GitObservationRecordRef) :
    Option ObjectAvailability :=
  if r.details.observationKind = .objectAvailability ∧ r.details.objectType = some t ∧
      r.details.objectSha = some o then r.details.availability
  else none

def assertions (a d : Str) (refs : List GitObservationRecordRef) : List AncestryRelation :=
  refs.filterMap (assertedRelation a d)

def latestAvailability (t : ObjectType) (o : Str) (refs : List GitObservationRecordRef) :
    Option ObjectAvailability :=
  (refs.filterMap (observedAvailability t o)).getLast?

def effectiveOf (asserted : List AncestryRelation) : AncestryRelation :=
  effectiveCounts (fun v => asserted.count v)

def effective? (repository : RepositoryState) (a d : Str) : Option AncestryRelation :=
  (repository.relations.get? (relationKey a d)).map RelationState.effectiveRelation

def availability? (repository : RepositoryState) (t : ObjectType) (o : Str) : Option ObjectAvailability :=
  (repository.objects.get? (objectKeyText t o)).map (fun x => x.availability)

theorem filterMap_concat {α β : Type} (f : α → Option β) (l : List α) (a : α) :
    (l ++ [a]).filterMap f = l.filterMap f ++ (f a).toList := by
  rw [List.filterMap_append]
  cases h : f a <;> simp [h]

theorem latestAvailability_concat (t : ObjectType) (o : Str) (refs : List GitObservationRecordRef)
    (r : GitObservationRecordRef) : latestAvailability t o (refs ++ [r]) =
      (observedAvailability t o r).or (latestAvailability t o refs) := by
  rw [latestAvailability, filterMap_concat]
  cases observedAvailability t o r with
  | none => simp [latestAvailability]
  | some v => simp

-- A key splits at its first colon, since neither a digest nor an object type holds one.
theorem colon_inj {x y u v : Str} (hx : cp ':' ∉ x) (hy : cp ':' ∉ y)
    (h : x ++ cp ':' :: u = y ++ cp ':' :: v) : x = y ∧ u = v := by
  induction x generalizing y with
  | nil =>
    cases y with
    | nil => exact ⟨rfl, (List.cons.inj h).2⟩
    | cons b y => exact absurd ((List.cons.inj h).1 ▸ List.mem_cons_self) hy
  | cons b x ih =>
    rw [List.mem_cons, not_or] at hx
    cases y with
    | nil => exact absurd (List.cons.inj h).1.symm hx.1
    | cons c y =>
      rw [List.mem_cons, not_or] at hy
      obtain ⟨rfl, hrest⟩ := List.cons.inj h
      obtain ⟨rfl, rfl⟩ := ih hx.2 hy.2 hrest
      exact ⟨rfl, rfl⟩

theorem relationKey_inj {a d a' d' : Str} (ha : isCommitSha a = true) (ha' : isCommitSha a' = true)
    (h : relationKey a d = relationKey a' d') : a = a' ∧ d = d' := by
  have hcolon {s : Str} (hs : isCommitSha s = true) : cp ':' ∉ s := by
    intro hmem
    rw [isCommitSha, Bool.and_eq_true] at hs
    exact absurd (List.all_eq_true.mp hs.2 _ hmem) (by decide)
  rw [relationKey, relationKey, List.append_assoc, List.append_assoc] at h
  exact colon_inj (hcolon ha) (hcolon ha') h

theorem objectKeyText_inj {t t' : ObjectType} {o o' : Str}
    (h : objectKeyText t o = objectKeyText t' o') : t = t' ∧ o = o' := by
  have hcolon (t : ObjectType) : cp ':' ∉ t.text := by
    cases t <;> decide
  have hinj : Function.Injective ObjectType.text := by
    intro x y
    cases x <;> cases y <;> decide
  rw [objectKeyText, objectKeyText, List.append_assoc, List.append_assoc] at h
  obtain ⟨htext, hrest⟩ := colon_inj (hcolon t) (hcolon t') h
  exact ⟨hinj htext, hrest⟩

theorem effectiveCounts_congr {c c' : AncestryRelation → Nat} (h : ∀ v, 0 < c v ↔ 0 < c' v) :
    effectiveCounts c = effectiveCounts c' := by
  have hzero (v : AncestryRelation) : c v = 0 ↔ c' v = 0 := by
    have hv := h v
    omega
  simp only [effectiveCounts, conflictedCounts, decide_eq_true_eq, h, hzero]

theorem effectiveOf_congr {l l' : List AncestryRelation} (h : ∀ v, v ∈ l ↔ v ∈ l') :
    effectiveOf l = effectiveOf l' := by
  refine effectiveCounts_congr fun v => ?_
  rw [List.count_pos_iff, List.count_pos_iff]
  exact h v

theorem effectiveOf_unknown {l : List AncestryRelation}
    (h : (.ancestor ∈ l ∧ .notAncestor ∈ l) ∨ .unknown ∈ l) : effectiveOf l = .unknown := by
  refine if_pos ?_
  rcases h with ⟨hancestor, hnot⟩ | hunknown
  · exact .inl (decide_eq_true ⟨List.count_pos_iff.mpr hancestor, List.count_pos_iff.mpr hnot⟩)
  · exact .inr (.inl (List.count_pos_iff.mpr hunknown))

end Assertions

section Tracking

variable {refs : List GitObservationRecordRef} {r : GitObservationRecordRef} {p : Provenance}
  {repository updated : RepositoryState}

structure Updated (repository : RepositoryState) (r : GitObservationRecordRef) (p : Provenance)
    (updated : RepositoryState) : Prop where
  relations : (r.details.observationKind = .ancestry ∧
      ∃ x, RelationSet repository.relations r.details p updated.relations x) ∨
    (r.details.observationKind ≠ .ancestry ∧ updated.relations = repository.relations)
  objects : (r.details.observationKind = .objectAvailability ∧
      ∃ o, ObjectSet repository.objects repository.missingObjects r.details p updated.objects
        updated.missingObjects o) ∨
    (r.details.observationKind ≠ .objectAvailability ∧ updated.objects = repository.objects ∧
      updated.missingObjects = repository.missingObjects)

theorem updateRepository_updated (hok : updateRepository repository r p = .ok updated) :
    Updated repository r p updated := by
  simp only [updateRepository, bind_eq_ok, pure_eq_ok] at hok
  obtain ⟨commits, -, middle, hmiddle, rfl⟩ := hok
  cases hkind : r.details.observationKind with
  | commit =>
    simp only [applyObservation, hkind, Except.ok.injEq] at hmiddle
    subst hmiddle
    exact ⟨.inr ⟨by simp [hkind], rfl⟩, .inr ⟨by simp [hkind], rfl, rfl⟩⟩
  | ancestry =>
    simp only [applyObservation, hkind, bind_eq_ok, pure_eq_ok] at hmiddle
    obtain ⟨relations, hrelations, rfl⟩ := hmiddle
    exact ⟨.inl ⟨hkind, applyRelation_eq_ok hrelations⟩, .inr ⟨by simp [hkind], rfl, rfl⟩⟩
  | objectAvailability =>
    simp only [applyObservation, hkind, bind_eq_ok, pure_eq_ok, Prod.exists] at hmiddle
    obtain ⟨objects, missing, hobjects, rfl⟩ := hmiddle
    exact ⟨.inr ⟨by simp [hkind], rfl⟩, .inl ⟨hkind, applyObjectAvailability_eq_ok hobjects⟩⟩
  | checkout | ref | worktreeStatus | diff | shallowState =>
    simp only [applyObservation, hkind, bind_eq_ok, pure_eq_ok] at hmiddle
    obtain ⟨checkouts, -, rfl⟩ := hmiddle
    exact ⟨.inr ⟨by simp [hkind], rfl⟩, .inr ⟨by simp [hkind], rfl, rfl⟩⟩

structure RelationTracks (asserted : List AncestryRelation) (x : RelationState) : Prop where
  nonempty : asserted ≠ []
  counts : ∀ v, x.tally.assertionCounts v = asserted.count v
  effective : x.effectiveRelation = effectiveCounts x.tally.assertionCounts

-- What the repository keeps of a pair or an object is a function of the observations folded in.
structure Tracks (refs : List GitObservationRecordRef) (repository : RepositoryState) : Prop where
  unseen : ∀ a d, isCommitSha a = true → repository.relations.get? (relationKey a d) = none →
    assertions a d refs = []
  relations : ∀ a d x, isCommitSha a = true → repository.relations.get? (relationKey a d) = some x →
    RelationTracks (assertions a d refs) x
  objects : ∀ t o, availability? repository t o = latestAvailability t o refs
  keys : ∀ k o, repository.objects.get? k = some o → k = o.keyText
  missing : ∀ k, repository.missingObjects.get? k = (expectedMissing repository.objects).get? k

theorem tracks_new (id : Str) : Tracks [] { repositoryId := id } where
  unseen _ _ _ _ := rfl
  relations _ _ _ _ h := by simp at h
  objects _ _ := rfl
  keys _ _ h := by simp at h
  missing _ := rfl

theorem assertions_concat (a d : Str) (refs : List GitObservationRecordRef) (r : GitObservationRecordRef) :
    assertions a d (refs ++ [r]) = assertions a d refs ++ (assertedRelation a d r).toList :=
  filterMap_concat _ _ _

theorem RelationTracks.record {asserted : List AncestryRelation} {t : Tally AncestryRelation}
    {x : RelationState} (htally : x.tally = t.record x.latestAssertion p)
    (heffective : x.effectiveRelation = effectiveCounts x.tally.assertionCounts)
    (ht : ∀ v, t.assertionCounts v = asserted.count v) :
    RelationTracks (asserted ++ [x.latestAssertion]) x := by
  refine ⟨by simp, ?_, heffective⟩
  intro v
  rw [htally, record_counts, List.count_append, List.count_singleton]
  by_cases hv : v = x.latestAssertion
  · simp [hv, ht]
  · simp [hv, Ne.symm hv, ht]

theorem Tracks.relation_step (h : Tracks refs repository) {x : RelationState}
    (hkind : r.details.observationKind = .ancestry) (hd : DetailsKept r.details)
    (hx : RelationSet repository.relations r.details p updated.relations x) {a d : Str}
    (ha : isCommitSha a = true) :
    (updated.relations.get? (relationKey a d) = none → assertions a d (refs ++ [r]) = []) ∧
      ∀ y, updated.relations.get? (relationKey a d) = some y →
        RelationTracks (assertions a d (refs ++ [r])) y := by
  have hancestor := hd.ancestor _ hx.ancestor
  rw [hx.set_eq, assertions_concat, Dict.get?_set]
  by_cases hpair : a = x.ancestorSha ∧ d = x.descendantSha
  · obtain ⟨rfl, rfl⟩ := hpair
    have hasserted : assertedRelation x.ancestorSha x.descendantSha r = some x.latestAssertion := by
      rw [assertedRelation, if_pos ⟨hkind, hx.ancestor, hx.descendant⟩, hx.asserted]
    rw [if_pos rfl, hasserted]
    refine ⟨fun hnone => absurd hnone (Option.some_ne_none _), ?_⟩
    intro y hy
    cases hy
    obtain ⟨t, hrecord, ⟨hnone, rfl, -⟩ | ⟨y, hy, rfl⟩⟩ := hx.tally
    · rw [h.unseen _ _ ha hnone]
      exact RelationTracks.record hrecord hx.effective fun v => rfl
    · exact RelationTracks.record hrecord hx.effective (h.relations _ _ _ ha hy).counts
  · have hkey : relationKey a d ≠ relationKey x.ancestorSha x.descendantSha :=
      fun hkey => hpair (relationKey_inj ha hancestor hkey)
    have hasserted : assertedRelation a d r = none := by
      refine if_neg ?_
      rintro ⟨-, hsome, hdescendant⟩
      exact hpair ⟨Option.some.inj (hsome.symm.trans hx.ancestor),
        Option.some.inj (hdescendant.symm.trans hx.descendant)⟩
    rw [if_neg hkey, hasserted, Option.toList_none, List.append_nil]
    exact ⟨h.unseen a d ha, fun y hy => h.relations a d y ha hy⟩

theorem Tracks.object_step (h : Tracks refs repository) {o : ObjectState}
    (hkind : r.details.observationKind = .objectAvailability)
    (ho : ObjectSet repository.objects repository.missingObjects r.details p updated.objects
      updated.missingObjects o) (t : ObjectType) (v : Str) :
    availability? updated t v = latestAvailability t v (refs ++ [r]) := by
  rw [latestAvailability_concat, availability?, ho.set_eq, Dict.get?_set]
  by_cases hobject : t = o.objectType ∧ v = o.objectSha
  · obtain ⟨rfl, rfl⟩ := hobject
    have hseen : observedAvailability o.objectType o.objectSha r = some o.availability := by
      rw [observedAvailability, if_pos ⟨hkind, ho.type, ho.sha⟩, ho.asserted]
    rw [← ObjectState.keyText, if_pos rfl, hseen]
    rfl
  · have hkey : objectKeyText t v ≠ o.keyText := fun hkey => hobject (objectKeyText_inj hkey)
    have hseen : observedAvailability t v r = none := by
      refine if_neg ?_
      rintro ⟨-, htype, hsha⟩
      exact hobject ⟨Option.some.inj (htype.symm.trans ho.type), Option.some.inj (hsha.symm.trans ho.sha)⟩
    rw [if_neg hkey, hseen, Option.none_or]
    exact h.objects t v

theorem Tracks.step (h : Tracks refs repository) (hd : DetailsKept r.details)
    (hupdated : Updated repository r p updated) : Tracks (refs ++ [r]) updated := by
  have hrelations {a d : Str} (ha : isCommitSha a = true) :
      (updated.relations.get? (relationKey a d) = none → assertions a d (refs ++ [r]) = []) ∧
        ∀ y, updated.relations.get? (relationKey a d) = some y →
          RelationTracks (assertions a d (refs ++ [r])) y := by
    rcases hupdated.relations with ⟨hkind, x, hx⟩ | ⟨hkind, hsame⟩
    · exact h.relation_step hkind hd hx ha
    · have hasserted : assertedRelation a d r = none := if_neg fun hr => hkind hr.1
      rw [hsame, assertions_concat, hasserted, Option.toList_none, List.append_nil]
      exact ⟨h.unseen a d ha, fun y hy => h.relations a d y ha hy⟩
  rcases hupdated.objects with ⟨hkind, o, ho⟩ | ⟨hkind, hobjects, hmissing⟩
  · refine ⟨fun a d ha => (hrelations ha).1, fun a d x ha => (hrelations ha).2 x, ?_, ?_, ?_⟩
    · exact h.object_step hkind ho
    · rw [ho.set_eq]
      exact Dict.forall_get?_set rfl h.keys
    · exact ho.missing_kept h.missing
  · refine ⟨fun a d ha => (hrelations ha).1, fun a d x ha => (hrelations ha).2 x, ?_, ?_, ?_⟩
    · intro t o
      have hseen : observedAvailability t o r = none := if_neg fun hr => hkind hr.1
      rw [latestAvailability_concat, hseen, Option.none_or, availability?, hobjects]
      exact h.objects t o
    · rw [hobjects]
      exact h.keys
    · rw [hobjects, hmissing]
      exact h.missing

end Tracking

section Runs

variable {events : List (ReducerEvent sha)} {event : ReducerEvent sha} {s s' state : GraphState}

def contents (s : GraphState) : RepositoryState := s.repository.getD { repositoryId := [] }

def observations (events : List (ReducerEvent sha)) : List GitObservationRecordRef :=
  events.filterMap observation?

theorem advance_eq_ok (h : advance s event = .ok s') :
    (event.sourceEvent.eventType ∉ gitObservationTypes ∧ s' = s) ∨
      (event.sourceEvent.eventType ∈ gitObservationTypes ∧ storable s' = .ok () ∧
        ∃ r repository, observation? event = some r ∧
          Stepped s event.sourceEvent r repository s') := by
  rw [advance, bind_eq_ok] at h
  obtain ⟨before, -, h⟩ := h
  split at h
  · rename_i htype
    simp only [bind_eq_ok, exists_unit, wrapped_eq_ok, pure_eq_ok] at h
    obtain ⟨-, next, hnext, after, hafter, rfl⟩ := h
    obtain ⟨r, repository, hparsed, hstep⟩ := transition_eq_ok hnext
    refine .inr ⟨htype, ?_, r, repository, ?_, hstep⟩
    · rw [storable, hafter]
    · rw [observation?, if_pos htype, hparsed]
      rfl
  · rename_i htype
    rw [pure_eq_ok] at h
    exact .inl ⟨htype, h.symm⟩

theorem foldGraph_concat (h : foldGraph (events ++ [event]) = .ok state) :
    ∃ s, foldGraph events = .ok s ∧ advance s event = .ok state := by
  rw [foldGraph, accumulate_append, bind_eq_ok] at h
  obtain ⟨s, hs, hlast⟩ := h
  simp only [accumulate, bind_eq_ok, Except.ok.injEq] at hlast
  obtain ⟨s', hstep, rfl⟩ := hlast
  exact ⟨s, hs, hstep⟩

theorem foldGraph_tracks (h : foldGraph events = .ok state) :
    Tracks (observations events) (contents state) := by
  induction events using List.reverseRecOn generalizing state with
  | nil =>
    cases h
    exact tracks_new _
  | append_singleton events event ih =>
    obtain ⟨s, hs, hstep⟩ := foldGraph_concat h
    have htracks := ih hs
    rw [observations, filterMap_concat]
    rcases advance_eq_ok hstep with ⟨htype, rfl⟩ | ⟨-, -, r, repository, hr, hstepped⟩
    · rw [observation?, if_neg htype, Option.toList_none, List.append_nil]
      exact htracks
    · rw [hr, contents, hstepped.next]
      refine Tracks.step ?_ hstepped.observed.details (updateRepository_updated hstepped.updated)
      cases hrepository : s.repository with
      | some old =>
        rw [contents, hrepository] at htracks
        exact htracks
      | none =>
        rw [contents, hrepository] at htracks
        exact { htracks with }

def PlainRun (events : List (ReducerEvent sha)) : Prop :=
  ∀ event ∈ events, event.sourceEvent.eventType ∈ gitObservationTypes →
    Plain event.sourceEvent.toEventEnvelope

theorem foldGraph_revalidates_iff (h : foldGraph events = .ok state)
    (hrecorded : ∀ event ∈ events, canonicalTime event.sourceEvent.recordedAt = true) :
    validatedStateCopy state = .ok () ↔ PlainRun events := by
  induction events using List.reverseRecOn generalizing state with
  | nil =>
    cases h
    refine iff_of_true ?_ (List.forall_mem_nil _)
    rfl
  | append_singleton events event ih =>
    obtain ⟨s, hs, hstep⟩ := foldGraph_concat h
    rw [List.forall_mem_append, List.forall_mem_singleton] at hrecorded
    have hih := ih hs hrecorded.1
    rw [PlainRun, List.forall_mem_append, List.forall_mem_singleton]
    rcases advance_eq_ok hstep with ⟨htype, rfl⟩ | ⟨htype, hstorable, r, repository, -, hstepped⟩
    · rw [hih, PlainRun]
      exact ⟨fun hplain => ⟨hplain, fun hin => absurd hin htype⟩, fun hplain => hplain.1⟩
    · rw [hstepped.revalidates_iff hrecorded.2 hstorable]
      exact ⟨fun hplain => ⟨hih.mp hstepped.valid, fun _ => hplain⟩, fun hplain => hplain.2 htype⟩

theorem effective?_eq (h : foldGraph events = .ok state) {a d : Str} (ha : isCommitSha a = true) :
    effective? (contents state) a d =
      if assertions a d (observations events) = [] then none
      else some (effectiveOf (assertions a d (observations events))) := by
  have htracks := foldGraph_tracks h
  rw [effective?]
  cases hget : (contents state).relations.get? (relationKey a d) with
  | none => rw [if_pos (htracks.unseen a d ha hget), Option.map_none]
  | some x =>
    have hx := htracks.relations a d x ha hget
    have hcounts : x.tally.assertionCounts = fun v => (assertions a d (observations events)).count v :=
      funext hx.counts
    rw [if_neg hx.nonempty, Option.map_some, hx.effective, hcounts, effectiveOf]

theorem observations_append (events more : List (ReducerEvent sha)) :
    observations (events ++ more) = observations events ++ observations more := List.filterMap_append

theorem missing_iff (h : foldGraph events = .ok state) (k : Str) :
    (contents state).missingObjects.contains k = true ↔ ∃ t o v, k = objectKeyText t o ∧
      latestAvailability t o (observations events) = some v ∧ v ≠ .available := by
  have htracks := foldGraph_tracks h
  rw [Dict.contains, htracks.missing, get?_expectedMissing]
  constructor
  · intro hsome
    cases hobject : (contents state).objects.get? k with
    | none => simp [hobject] at hsome
    | some o =>
      have hkey := htracks.keys k o hobject
      refine ⟨o.objectType, o.objectSha, o.availability, hkey, ?_, ?_⟩
      · rw [← htracks.objects, availability?, ← ObjectState.keyText, ← hkey, hobject]
        rfl
      · intro havailable
        simp [hobject, havailable] at hsome
  · rintro ⟨t, o, v, rfl, hlatest, hv⟩
    rw [← htracks.objects, availability?, Option.map_eq_some_iff] at hlatest
    obtain ⟨x, hx, rfl⟩ := hlatest
    simp [hx, hv]

end Runs

section Consistency

structure OrderFree (events : List (ReducerEvent sha)) (state : GraphState) : Prop where
  bySet : ∀ (events' : List (ReducerEvent sha)) state', foldGraph events' = .ok state' →
    ∀ a d, isCommitSha a = true → isCommitSha d = true →
      (∀ v, v ∈ assertions a d (observations events) ↔ v ∈ assertions a d (observations events')) →
      effective? (contents state) a d = effective? (contents state') a d
  absorbing : ∀ more state', foldGraph (events ++ more) = .ok state' →
    ∀ a d, isCommitSha a = true → isCommitSha d = true →
      (.ancestor ∈ assertions a d (observations events) ∧
          .notAncestor ∈ assertions a d (observations events)) ∨
        .unknown ∈ assertions a d (observations events) →
      effective? (contents state') a d = some .unknown
  missing : ∀ k, (contents state).missingObjects.contains k = true ↔ ∃ t o v, k = objectKeyText t o ∧
    latestAvailability t o (observations events) = some v ∧ v ≠ .available

structure Consistent (events : List (ReducerEvent sha)) (state : GraphState) : Prop
    extends OrderFree events state where
  revalidates : validatedStateCopy state = .ok ()

theorem foldGraph_orderFree {events : List (ReducerEvent sha)} {state : GraphState}
    (h : foldGraph events = .ok state) : OrderFree events state where
  bySet events' state' h' a d ha _ hsame := by
    rw [effective?_eq h ha, effective?_eq h' ha, effectiveOf_congr hsame]
    refine if_congr ?_ rfl rfl
    rw [List.eq_nil_iff_forall_not_mem, List.eq_nil_iff_forall_not_mem]
    exact forall_congr' fun v => not_congr (hsame v)
  absorbing more state' h' a d ha _ hasserted := by
    have hkept {v : AncestryRelation} (hv : v ∈ assertions a d (observations events)) :
        v ∈ assertions a d (observations (events ++ more)) := by
      rw [observations_append, assertions, List.filterMap_append]
      exact List.mem_append_left _ hv
    have hlater : (.ancestor ∈ assertions a d (observations (events ++ more)) ∧
        .notAncestor ∈ assertions a d (observations (events ++ more))) ∨
          .unknown ∈ assertions a d (observations (events ++ more)) := by
      rcases hasserted with ⟨hancestor, hnot⟩ | hunknown
      · exact .inl ⟨hkept hancestor, hkept hnot⟩
      · exact .inr (hkept hunknown)
    have hnonempty : assertions a d (observations (events ++ more)) ≠ [] := by
      rcases hlater with ⟨hancestor, -⟩ | hunknown
      · exact List.ne_nil_of_mem hancestor
      · exact List.ne_nil_of_mem hunknown
    rw [effective?_eq h' ha, if_neg hnonempty, effectiveOf_unknown hlater]
  missing k := missing_iff h k

theorem accepted_graph_consistent_iff (events : List (ReducerEvent sha)) (state : GraphState)
    (hrecorded : ∀ event ∈ events, canonicalTime event.sourceEvent.recordedAt = true)
    (h : foldGraph events = .ok state) :
    (Consistent events state ↔ PlainRun events) ∧ OrderFree events state := by
  have horder := foldGraph_orderFree h
  refine ⟨⟨fun hc => ?_, fun hplain => ⟨horder, ?_⟩⟩, horder⟩
  · exact (foldGraph_revalidates_iff h hrecorded).mp hc.revalidates
  · exact (foldGraph_revalidates_iff h hrecorded).mpr hplain

def sampleReference (sourceRecordId : Str) : GitObservationRecordRef where
  traceId := lit "trace-1"
  runId := lit "run-1"
  repositoryId := samplePartition.repositoryId
  checkoutAlias := lit "main"
  sequence := 1
  occurredAt := lit "2024-05-01T12:00:00Z"
  authorizationEventId := sampleAccess.authorizationDecisionId
  source := ⟨lit "git", sourceRecordId, .observed, lit "2024-05-01T12:00:00Z"⟩
  details := { observationKind := .shallowState, shallow := some false }
  artifactRefs := []
  classification := .internal
  retentionPolicyId := lit "retention_1"
  gitVersion := lit "2.45.0"
  runnerName := lit "runner"
  runnerVersion := lit "1.0.0"
  algorithmName := lit "rev-parse"
  algorithmVersion := lit "1.0.0"
  causationEventId := none

def sampleObservation (sourceRecordId : Str) : EventEnvelope :=
  let r := sampleReference sourceRecordId
  let e : EventEnvelope := { sampleEnvelope [] 1 1 'a' none .internal with
    eventType := ObservationKind.shallowState.eventType
    eventKind := .observation
    source := some r.source
    streamType := streamType
    correlationId := correlationId sampleSha r.traceId r.runId
    producer := GateEvents.producerName
    producerVersion := GateEvents.producerVersionText
    payloadSchema := ObservationKind.shallowState.eventType ++ lit ".v1"
    payload := .obj (r.dictFields ++ [(lit "batch_first_sequence", jsonInt 1), (lit "batch_size", jsonInt 1)]) }
  let streamId := gitObservationStreamId sampleSha e r
  let identity := batchIdentitySha256 sampleSha e streamId 1 1
  { e with
    streamId := streamId
    eventId := gitObservationEventId sampleSha e streamId 1
    idempotencyKeySha256 := identity
    requestId := requestId identity
    requestSha256 := batchCommandSha256 sampleSha [r] e.recordedAt e }

def sampleGraphEvent (sourceRecordId : Str) : ReducerEvent sampleSha :=
  let e := sampleObservation sourceRecordId
  have hone : 1 ≤ 1 ∧ 1 ≤ eventMaxVersion := by decide
  ⟨e.sign sampleSha hone hone (iff_of_true rfl rfl), some ⟨e.eventType, 1, e.payload⟩⟩

def folds (events : List (ReducerEvent sampleSha)) : Bool :=
  match foldGraph events with
  | .ok _ => true
  | .error _ => false

theorem exists_of_folds {events : List (ReducerEvent sampleSha)} (h : folds events = true) :
    ∃ state, foldGraph events = .ok state := by
  unfold folds at h
  split at h
  · rename_i state hstate
    exact ⟨state, hstate⟩
  · cases h

theorem slashed_folds : folds [sampleGraphEvent (lit "refs/heads/main")] = true := by
  decide +kernel

theorem sampleGraphEvent_recorded (sourceRecordId : Str) :
    ∀ event ∈ [sampleGraphEvent sourceRecordId], canonicalTime event.sourceEvent.recordedAt = true := by
  rw [List.forall_mem_singleton]
  exact (by decide : canonicalTime (lit "2024-05-01T12:00:00Z") = true)

theorem slashed_not_plain : ¬PlainRun [sampleGraphEvent (lit "refs/heads/main")] := by
  intro hplain
  rw [PlainRun, List.forall_mem_singleton] at hplain
  have hsource := (hplain (by decide)).source (sampleReference (lit "refs/heads/main")).source rfl
  exact absurd hsource.2 (by decide)

theorem accepted_graph_consistent_sample : ∃ state,
    foldGraph [sampleGraphEvent (lit "refs/heads/main")] = .ok state ∧
      (Consistent [sampleGraphEvent (lit "refs/heads/main")] state ↔
        PlainRun [sampleGraphEvent (lit "refs/heads/main")]) ∧
      OrderFree [sampleGraphEvent (lit "refs/heads/main")] state := by
  obtain ⟨state, hstate⟩ := exists_of_folds slashed_folds
  exact ⟨state, hstate, accepted_graph_consistent_iff _ state (sampleGraphEvent_recorded _) hstate⟩

theorem slashed_record_id_fails_revalidation : ∃ state,
    foldGraph [sampleGraphEvent (lit "refs/heads/main")] = .ok state ∧
      validatedStateCopy state ≠ .ok () ∧
        ¬Consistent [sampleGraphEvent (lit "refs/heads/main")] state := by
  obtain ⟨state, hstate⟩ := exists_of_folds slashed_folds
  have hrefused : validatedStateCopy state ≠ .ok () := fun hvalid =>
    slashed_not_plain ((foldGraph_revalidates_iff hstate (sampleGraphEvent_recorded _)).mp hvalid)
  exact ⟨state, hstate, hrefused, fun hc => hrefused hc.revalidates⟩

end Consistency

end GitGraph

end TraceBackedMemory
