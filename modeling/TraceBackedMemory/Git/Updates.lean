import TraceBackedMemory.Git.Parsing

namespace TraceBackedMemory

open Text Raising Projection

namespace GitGraph

variable {sha : Sha256} {last : Nat} {p : Provenance}

section Commits

variable {commits commits' : Dict Str CommitNode}

structure Touched (last : Nat) (commits commits' : Dict Str CommitNode) : Prop where
  grows : Grows commits commits'
  bound : commits'.size ≤ maxCommits
  kept : ∀ k n, commits'.get? k = some n → CommitKept last k n

theorem touchCommit_touched {c : Str} (hbound : commits.size ≤ maxCommits)
    (hkept : ∀ k n, commits.get? k = some n → CommitKept last k n) (hp : ProvenanceKept last p)
    (hc : isCommitSha c = true) (h : touchCommit p commits c = .ok commits') :
    Touched last commits commits' ∧ commits'.contains c = true := by
  have hset (count : Nat) (hpositive : 1 ≤ count) : ∀ k n,
      (commits.set c ⟨c, count, p⟩).get? k = some n → CommitKept last k n :=
    Dict.forall_get?_set ⟨hc, rfl, hpositive, hp⟩ hkept
  have hgrows (n : CommitNode) : Grows commits (commits.set c n) :=
    fun k hk => contains_set.mpr (.inr hk)
  unfold touchCommit at h
  split at h
  · rename_i hnone
    simp only [bind_eq_ok, exists_unit, raiseIf_eq_ok, not_le, pure_eq_ok] at h
    obtain ⟨hlimit, rfl⟩ := h
    refine ⟨⟨hgrows _, ?_, hset 1 (le_refl 1)⟩, contains_set.mpr (.inl rfl)⟩
    rw [size_set_of_none hnone]
    exact hlimit
  · rename_i node hsome
    simp only [bind_eq_ok, exists_unit, raiseIf_eq_ok, pure_eq_ok] at h
    obtain ⟨-, rfl⟩ := h
    refine ⟨⟨hgrows _, ?_, hset _ (Nat.le_add_left 1 _)⟩, contains_set.mpr (.inl rfl)⟩
    rw [size_set_of_some hsome]
    exact hbound

theorem accumulate_touched {shas : List Str} (hbound : commits.size ≤ maxCommits)
    (hkept : ∀ k n, commits.get? k = some n → CommitKept last k n) (hp : ProvenanceKept last p)
    (hshas : ∀ c ∈ shas, isCommitSha c = true) (h : accumulate (touchCommit p) commits shas = .ok commits') :
    Touched last commits commits' ∧ ∀ c ∈ shas, commits'.contains c = true := by
  induction shas generalizing commits with
  | nil =>
    cases h
    exact ⟨⟨fun _ hk => hk, hbound, hkept⟩, List.forall_mem_nil _⟩
  | cons c shas ih =>
    rw [accumulate, bind_eq_ok] at h
    obtain ⟨next, hnext, hrest⟩ := h
    obtain ⟨hc, hshas⟩ := List.forall_mem_cons.mp hshas
    obtain ⟨htouched, hcontains⟩ := touchCommit_touched hbound hkept hp hc hnext
    obtain ⟨hlater, hall⟩ := ih htouched.bound htouched.kept hshas hrest
    exact ⟨⟨fun k hk => hlater.grows k (htouched.grows k hk), hlater.bound, hlater.kept⟩,
      List.forall_mem_cons.mpr ⟨hlater.grows c hcontains, hall⟩⟩

end Commits

section Relations

variable {commits : Dict Str CommitNode} {relations relations' : Dict Str RelationState}
  {d : GitObservationDetails}

theorem relationValues_nodup : relationValues.Nodup := by decide

theorem mem_relationValues (a : AncestryRelation) : a ∈ relationValues := by
  cases a <;> decide

structure RelationSet (relations : Dict Str RelationState) (d : GitObservationDetails) (p : Provenance)
    (relations' : Dict Str RelationState) (x : RelationState) : Prop where
  ancestor : d.ancestorSha = some x.ancestorSha
  descendant : d.descendantSha = some x.descendantSha
  asserted : d.relation = some x.latestAssertion
  set_eq : relations' = relations.set (relationKey x.ancestorSha x.descendantSha) x
  tally : ∃ t : Tally AncestryRelation, x.tally = t.record x.latestAssertion p ∧
    ((relations.get? (relationKey x.ancestorSha x.descendantSha) = none ∧ t = emptyTally ∧
        relations.size < maxRelations) ∨
      ∃ y, relations.get? (relationKey x.ancestorSha x.descendantSha) = some y ∧ t = y.tally)
  effective : x.effectiveRelation = effectiveCounts x.tally.assertionCounts
  conflicted : x.conflicted = conflictedCounts x.tally.assertionCounts
  confidence : confidenceOf x.tally = some x.relationConfidence
  observation : x.lastObservation = p

theorem applyRelation_eq_ok (h : applyRelation relations d p = .ok relations') :
    ∃ x, RelationSet relations d p relations' x := by
  simp only [applyRelation, bind_eq_ok, demand_eq_ok, pure_eq_ok] at h
  obtain ⟨ancestor, hancestor, descendant, hdescendant, relation, hrelation, t, ht, confidence, hconfidence,
    rfl⟩ := h
  refine ⟨⟨ancestor, descendant, t.record relation p, relation, effectiveCounts (t.record relation p).1,
    confidence, conflictedCounts (t.record relation p).1, p⟩, hancestor, hdescendant, hrelation, rfl,
    ⟨t, rfl, ?_⟩, rfl, rfl, hconfidence, rfl⟩
  unfold retainedRelation at ht
  split at ht
  · rename_i hnone
    simp only [bind_eq_ok, exists_unit, raiseIf_eq_ok, not_le, pure_eq_ok] at ht
    exact .inl ⟨hnone, ht.2.symm, ht.1⟩
  · rename_i y hsome
    simp only [bind_eq_ok, exists_unit, pure_eq_ok] at ht
    exact .inr ⟨y, hsome, ht.2.2.symm⟩

theorem RelationSet.kept {x : RelationState} (h : RelationSet relations d p relations' x)
    (hbound : relations.size ≤ maxRelations)
    (hkept : ∀ k y, relations.get? k = some y → RelationKept commits last k y)
    (hp : ProvenanceKept last p) (hancestor : Known commits x.ancestorSha)
    (hdescendant : Known commits x.descendantSha) :
    relations'.size ≤ maxRelations ∧
      ∀ k y, relations'.get? k = some y → RelationKept commits last k y := by
  obtain ⟨t, hrecord, ht⟩ := h.tally
  have htally : TallyKept relationValues last x.tally := by
    rw [hrecord]
    refine tallyKept_record relationValues_nodup ?_ (mem_relationValues _) hp
    rcases ht with ⟨-, rfl, -⟩ | ⟨y, hy, rfl⟩
    · exact .inl rfl
    · exact .inr (hkept _ y hy).tally
  have hlatest : 0 < x.tally.assertionCounts x.latestAssertion := by
    rw [hrecord, record_counts, if_pos rfl]
    exact Nat.succ_pos _
  have hobservation : x.tally.assertions x.latestAssertion = some x.lastObservation := by
    rw [hrecord, record_assertions, if_pos rfl, h.observation]
  have hobserved : ProvenanceKept last x.lastObservation := by
    rw [h.observation]
    exact hp
  rw [h.set_eq]
  constructor
  · rcases ht with ⟨hnone, -, hlimit⟩ | ⟨y, hy, -⟩
    · rw [size_set_of_none hnone]
      exact hlimit
    · rw [size_set_of_some hy]
      exact hbound
  · refine Dict.forall_get?_set ?_ hkept
    exact ⟨hancestor, hdescendant, rfl, htally, hlatest, hobserved, hobservation, h.conflicted,
      h.effective, h.confidence.symm⟩

end Relations

section Objects

variable {commits : Dict Str CommitNode} {objects objects' : Dict Str ObjectState}
  {missing missing' : Dict Str MissingObject} {d : GitObservationDetails}

theorem availabilityValues_nodup : availabilityValues.Nodup := by decide

theorem mem_availabilityValues (a : ObjectAvailability) : a ∈ availabilityValues := by
  cases a <;> decide

def ObjectState.keyText (o : ObjectState) : Str := objectKeyText o.objectType o.objectSha

structure ObjectSet (objects : Dict Str ObjectState) (missing : Dict Str MissingObject)
    (d : GitObservationDetails) (p : Provenance) (objects' : Dict Str ObjectState)
    (missing' : Dict Str MissingObject) (o : ObjectState) : Prop where
  sha : d.objectSha = some o.objectSha
  type : d.objectType = some o.objectType
  asserted : d.availability = some o.availability
  reason : o.unavailableReason = d.unavailableReason
  observation : o.lastObservation = p
  set_eq : objects' = objects.set o.keyText o
  missing_eq : missing' = if o.availability = .available then missing.erase o.keyText
    else missing.set o.keyText o.toMissingObject
  tally : ∃ t : Tally ObjectAvailability, o.tally = t.record o.availability p ∧
    ((objects.get? o.keyText = none ∧ t = emptyTally ∧ objects.size < maxObjects) ∨
      ∃ y, objects.get? o.keyText = some y ∧ t = y.tally)

theorem applyObjectAvailability_eq_ok
    (h : applyObjectAvailability objects missing d p = .ok (objects', missing')) :
    ∃ o, ObjectSet objects missing d p objects' missing' o := by
  simp only [applyObjectAvailability, bind_eq_ok, demand_eq_ok, pure_eq_ok, Prod.mk.injEq] at h
  obtain ⟨objectSha, hsha, objectType, htype, availability, havailability, t, ht, rfl, rfl⟩ := h
  refine ⟨⟨⟨objectSha, objectType, availability, d.unavailableReason, p⟩, t.record availability p⟩, hsha,
    htype, havailability, rfl, rfl, rfl, rfl, t, rfl, ?_⟩
  unfold retainedObject at ht
  split at ht
  · rename_i hnone
    simp only [bind_eq_ok, exists_unit, raiseIf_eq_ok, not_le, pure_eq_ok] at ht
    exact .inl ⟨hnone, ht.2.symm, ht.1⟩
  · rename_i y hsome
    simp only [bind_eq_ok, exists_unit, pure_eq_ok] at ht
    exact .inr ⟨y, hsome, ht.2.2.symm⟩

theorem get?_expectedMissing (objects : Dict Str ObjectState) (k : Str) :
    (expectedMissing objects).get? k = (objects.get? k).bind (fun o =>
      if o.availability = .available then none else some o.toMissingObject) := by
  rw [expectedMissing, Dict.get?_mapValues, Dict.get?_filterEntries]
  cases objects.get? k with
  | none => rfl
  | some o =>
    by_cases h : o.availability = .available
    · simp [h]
    · simp [h]

theorem ObjectSet.missing_kept {o : ObjectState} (h : ObjectSet objects missing d p objects' missing' o)
    (hmissing : ∀ k, missing.get? k = (expectedMissing objects).get? k) :
    ∀ k, missing'.get? k = (expectedMissing objects').get? k := by
  intro k
  rw [get?_expectedMissing, h.set_eq, h.missing_eq, Dict.get?_set]
  by_cases hk : k = o.keyText
  · subst hk
    by_cases havailable : o.availability = .available
    · rw [if_pos havailable, Dict.get?_erase]
      simp [havailable]
    · rw [if_neg havailable, Dict.get?_set_self]
      simp [havailable]
  · have hold : missing'.get? k = missing.get? k := by
      rw [h.missing_eq]
      split
      · rw [Dict.get?_erase, if_neg hk]
      · rw [Dict.get?_set_of_ne _ _ hk]
    rw [← h.missing_eq, hold, hmissing, get?_expectedMissing, if_neg hk]

theorem verifyObjectShape_reason {o : ObjectState} (hshape : verifyObjectShape d = .ok ())
    (hasserted : d.availability = some o.availability) (hreason : o.unavailableReason = d.unavailableReason) :
    o.availability = .available ↔ o.unavailableReason = none := by
  simp only [verifyObjectShape, required, bind_eq_ok, demand_eq_ok, exists_unit, raiseIf_eq_ok,
    not_and, not_not] at hshape
  obtain ⟨-, -, -, -, availability, havailability, havailable, hunavailable⟩ := hshape
  obtain rfl := Option.some.inj (hasserted.symm.trans havailability)
  rw [hreason]
  refine ⟨havailable, fun hnone => ?_⟩
  exact by_contra fun hne => hunavailable hne hnone

theorem ObjectSet.kept {o : ObjectState} (h : ObjectSet objects missing d p objects' missing' o)
    (hbound : objects.size ≤ maxObjects)
    (hkept : ∀ k y, objects.get? k = some y → ObjectKept commits last k y) (hp : ProvenanceKept last p)
    (hsha : isCommitSha o.objectSha = true)
    (hcommit : o.objectType = .commit → commits.contains o.objectSha = true)
    (hshape : verifyObjectShape d = .ok ()) :
    objects'.size ≤ maxObjects ∧ ∀ k y, objects'.get? k = some y → ObjectKept commits last k y := by
  obtain ⟨t, hrecord, ht⟩ := h.tally
  have htally : TallyKept availabilityValues last o.tally := by
    rw [hrecord]
    refine tallyKept_record availabilityValues_nodup ?_ (mem_availabilityValues _) hp
    rcases ht with ⟨-, rfl, -⟩ | ⟨y, hy, rfl⟩
    · exact .inl rfl
    · exact .inr (hkept _ y hy).tally
  have hlatest : 0 < o.tally.assertionCounts o.availability := by
    rw [hrecord, record_counts, if_pos rfl]
    exact Nat.succ_pos _
  have hobservation : o.tally.assertions o.availability = some o.lastObservation := by
    rw [hrecord, record_assertions, if_pos rfl, h.observation]
  have hobserved : ProvenanceKept last o.lastObservation := by
    rw [h.observation]
    exact hp
  rw [h.set_eq]
  constructor
  · rcases ht with ⟨hnone, -, hlimit⟩ | ⟨y, hy, -⟩
    · rw [size_set_of_none hnone]
      exact hlimit
    · rw [size_set_of_some hy]
      exact hbound
  · refine Dict.forall_get?_set ?_ hkept
    exact ⟨hsha, rfl, hcommit, htally, hlatest, verifyObjectShape_reason hshape h.asserted h.reason,
      hobserved, hobservation⟩

end Objects

section Checkouts

variable {commits : Dict Str CommitNode} {d : GitObservationDetails} {k : Str}

theorem retainedRef_eq_ok {refs : Dict Str RefState} {refName : Str} {retained : List Str × Nat}
    (h : retainedRef refs refName = .ok retained) :
    (refs.get? refName = none ∧ retained = ([], 0) ∧ refs.size < maxRefsPerCheckout) ∨
      ∃ x, refs.get? refName = some x ∧ retained = (x.observedCommitShas, x.observationCount) := by
  unfold retainedRef at h
  split at h
  · rename_i hnone
    simp only [bind_eq_ok, exists_unit, raiseIf_eq_ok, not_le, pure_eq_ok] at h
    exact .inl ⟨hnone, h.2.symm, h.1⟩
  · rename_i x hsome
    simp only [bind_eq_ok, exists_unit, pure_eq_ok] at h
    exact .inr ⟨x, hsome, h.2.2.symm⟩

theorem length_le_commits {l : List Str} (hnodup : l.Nodup) (hknown : ∀ c ∈ l, Known commits c)
    (hbound : commits.size ≤ maxCommits) : l.length ≤ maxCommits := by
  have hsubset : l ⊆ commits.keys := fun c hc => Dict.contains_iff_mem_keys.mp (hknown c hc).2
  have hlength := (List.subperm_of_subset hnodup hsubset).length_le
  rw [Dict.keys, List.length_map] at hlength
  exact hlength.trans hbound

theorem observedRef_kept {refName c : Str} {retained : List Str × Nat} (hname : isGitRefName refName = true)
    (hc : Known commits c) (hbound : commits.size ≤ maxCommits) (hp : ProvenanceKept last p)
    (hknown : ∀ v ∈ retained.1, Known commits v) (hcount : retained.1.length ≤ retained.2) :
    RefKept commits last refName (observedRef refName c retained p) := by
  have hperm : (observedRef refName c retained p).observedCommitShas.Perm (retained.1 ++ [c]).dedup :=
    List.perm_insertionSort _ _
  have hnodup : (retained.1 ++ [c]).dedup.Nodup := List.nodup_dedup _
  have hmem (v : Str) : v ∈ (observedRef refName c retained p).observedCommitShas ↔
      v ∈ retained.1 ∨ v = c := by
    rw [hperm.mem_iff, List.mem_dedup, List.mem_append, List.mem_singleton]
  have hall : ∀ v ∈ (observedRef refName c retained p).observedCommitShas, Known commits v := by
    intro v hv
    rcases (hmem v).mp hv with hv | rfl
    · exact hknown v hv
    · exact hc
  have hlength : (observedRef refName c retained p).observedCommitShas.length ≤ retained.2 + 1 := by
    have hdedup := (List.dedup_sublist (retained.1 ++ [c])).length_le
    rw [List.length_append, List.length_singleton] at hdedup
    rw [hperm.length_eq]
    omega
  exact ⟨hname, rfl, (hmem c).mpr (.inr rfl),
    length_le_commits (hperm.nodup_iff.mpr hnodup) hall hbound, hall, strictlySorted_of_nodup hnodup,
    hlength, rfl, rfl, hp⟩

theorem applyRef_kept {refs refs' : Dict Str RefState} {refName c : Str}
    (hsize : refs.size ≤ maxRefsPerCheckout)
    (hkept : ∀ j x, refs.get? j = some x → RefKept commits last j x) (hname : isGitRefName refName = true)
    (hc : Known commits c) (hbound : commits.size ≤ maxCommits) (hp : ProvenanceKept last p)
    (h : applyRef refs refName c p = .ok refs') :
    refs'.size ≤ maxRefsPerCheckout ∧ ∀ j x, refs'.get? j = some x → RefKept commits last j x := by
  simp only [applyRef, bind_eq_ok, pure_eq_ok] at h
  obtain ⟨retained, hretained, rfl⟩ := h
  rcases retainedRef_eq_ok hretained with ⟨hnone, rfl, hlimit⟩ | ⟨x, hsome, rfl⟩
  · constructor
    · rw [size_set_of_none hnone]
      exact hlimit
    · exact Dict.forall_get?_set (observedRef_kept hname hc hbound hp (List.forall_mem_nil _) (le_refl 0))
        hkept
  · have hx := hkept refName x hsome
    constructor
    · rw [size_set_of_some hsome]
      exact hsize
    · exact Dict.forall_get?_set (observedRef_kept hname hc hbound hp hx.each hx.count) hkept

structure HeadShape (d : GitObservationDetails) : Prop where
  commit : ∃ c, d.commitSha = some c
  attached : ∀ b ∈ d.detached, b = true ↔ d.refName = none

theorem refMatchesDetached_eq_ok {refName : Option Str} {detached : Bool}
    (h : refMatchesDetached refName detached = .ok ()) : detached = true ↔ refName = none := by
  simp only [refMatchesDetached, bind_eq_ok, exists_unit, raiseIf_eq_ok, not_and, ne_eq, not_not] at h
  cases detached with
  | true => exact iff_of_true rfl (h.1 rfl)
  | false => exact iff_of_false Bool.noConfusion (h.2 rfl)

theorem headShape_of_verify {subject : String} (h : verifyHeadShape d subject = .ok ()) : HeadShape d := by
  simp only [verifyHeadShape, required, bind_eq_ok, demand_eq_ok] at h
  obtain ⟨c, hc, detached, hdetached, hmatches⟩ := h
  refine ⟨⟨c, hc⟩, ?_⟩
  rw [hdetached]
  simpa using refMatchesDetached_eq_ok hmatches

theorem headShape_of_worktree (h : verifyWorktreeShape d = .ok ()) : HeadShape d := by
  simp only [verifyWorktreeShape, required, bind_eq_ok, demand_eq_ok] at h
  obtain ⟨c, hc, detached, hdetached, -, -, hmatches⟩ := h
  refine ⟨⟨c, hc⟩, ?_⟩
  rw [hdetached]
  simpa using refMatchesDetached_eq_ok hmatches

theorem observeHead_sound {c c' : CheckoutState} (h : CheckoutSound commits last k c) (hd : DetailsKept d)
    (hshape : HeadShape d) (hcommit : ∀ v ∈ d.commitSha, Known commits v)
    (hbound : commits.size ≤ maxCommits) (hp : ProvenanceKept last p)
    (hok : observeHead c d p = .ok c') : CheckoutSound commits last k c' := by
  have hattached := hshape.attached
  unfold observeHead at hok
  split at hok
  · rename_i hnone
    cases hok
    rw [hnone] at hattached
    exact { h with commit := hcommit, ref := by simp, attached := hattached }
  · rename_i refName hname
    simp only [bind_eq_ok, demand_eq_ok, pure_eq_ok] at hok
    obtain ⟨commit, hsome, refs, hrefs, rfl⟩ := hok
    have href : isGitRefName refName = true := hd.ref refName hname
    obtain ⟨hsize, heach⟩ := applyRef_kept h.refs h.eachRef href (hcommit commit hsome) hbound hp hrefs
    rw [hname] at hattached
    exact { h with
      commit := hcommit
      ref := by simpa using href
      attached := hattached
      refs := hsize
      eachRef := heach }

structure Seen (commits : Dict Str CommitNode) (d : GitObservationDetails) : Prop where
  commit : ∀ v ∈ d.commitSha, Known commits v
  base : ∀ v ∈ d.baseCommitSha, Known commits v
  ancestor : ∀ v ∈ d.ancestorSha, Known commits v
  descendant : ∀ v ∈ d.descendantSha, Known commits v
  object : d.objectType = some .commit → ∀ v ∈ d.objectSha, Known commits v
  boundaries : ∀ v ∈ d.boundaryCommitShas, Known commits v

theorem mem_commitShas {v : Str} : v ∈ commitShas d ↔ v ∈ d.commitSha ∨ v ∈ d.baseCommitSha ∨
    v ∈ d.ancestorSha ∨ v ∈ d.descendantSha ∨ (d.objectType = some .commit ∧ v ∈ d.objectSha) ∨
      v ∈ d.boundaryCommitShas := by
  have hobject : v ∈ (if d.objectType = some .commit then d.objectSha.toList else []) ↔
      d.objectType = some .commit ∧ v ∈ d.objectSha := by
    split <;> simp_all
  rw [commitShas, sortedStrs, (List.perm_insertionSort _ _).mem_iff, List.mem_dedup]
  simp only [List.mem_append, Option.mem_toList, hobject, or_assoc]
  exact Iff.rfl

theorem DetailsKept.commitShas (h : DetailsKept d) : ∀ v ∈ commitShas d, isCommitSha v = true := by
  intro v hv
  rcases mem_commitShas.mp hv with hv | hv | hv | hv | ⟨-, hv⟩ | hv
  · exact h.commit v hv
  · exact h.base v hv
  · exact h.ancestor v hv
  · exact h.descendant v hv
  · exact h.object v hv
  · exact h.boundaries v hv

theorem DetailsKept.seen (h : DetailsKept d) (hall : ∀ c ∈ GitGraph.commitShas d, commits.contains c = true) :
    Seen commits d := by
  have hknown {v : Str} (hv : v ∈ GitGraph.commitShas d) : Known commits v := ⟨h.commitShas v hv, hall v hv⟩
  exact {
    commit := fun v hv => hknown (mem_commitShas.mpr (.inl hv))
    base := fun v hv => hknown (mem_commitShas.mpr (.inr (.inl hv)))
    ancestor := fun v hv => hknown (mem_commitShas.mpr (.inr (.inr (.inl hv))))
    descendant := fun v hv => hknown (mem_commitShas.mpr (.inr (.inr (.inr (.inl hv)))))
    object := fun htype v hv => hknown (mem_commitShas.mpr (.inr (.inr (.inr (.inr (.inl ⟨htype, hv⟩))))))
    boundaries := fun v hv => hknown (mem_commitShas.mpr (.inr (.inr (.inr (.inr (.inr hv)))))) }

theorem observeCheckout_sound {c c' : CheckoutState} (h : CheckoutSound commits last k c)
    (hd : DetailsKept d) (hseen : Seen commits d) (hbound : commits.size ≤ maxCommits)
    (hp : ProvenanceKept last p) (hok : observeCheckout c d p = .ok c') :
    CheckoutSound commits last k c' := by
  have hhead {c' : CheckoutState} (hshape : HeadShape d) (hok : observeHead c d p = .ok c') :
      CheckoutSound commits last k c' := observeHead_sound h hd hshape hseen.commit hbound hp hok
  have hshape := hd.shape
  cases hkind : d.observationKind with
  | checkout =>
    simp only [observeCheckout, hkind, bind_eq_ok, pure_eq_ok] at hok
    simp only [verifyShape, hkind] at hshape
    obtain ⟨c₁, hc₁, rfl⟩ := hok
    exact { hhead (headShape_of_verify hshape) hc₁ with remote := hd.remote }
  | ref =>
    simp only [observeCheckout, hkind] at hok
    simp only [verifyShape, hkind] at hshape
    exact hhead (headShape_of_verify hshape) hok
  | worktreeStatus =>
    simp only [observeCheckout, hkind, bind_eq_ok, pure_eq_ok] at hok
    simp only [verifyShape, hkind] at hshape
    obtain ⟨c₁, hc₁, rfl⟩ := hok
    exact { hhead (headShape_of_worktree hshape) hc₁ with artifact := hd.artifact }
  | diff =>
    simp only [observeCheckout, hkind, Except.ok.injEq] at hok
    subst hok
    exact { h with commit := hseen.commit, artifact := hd.artifact, base := hseen.base }
  | shallowState =>
    simp only [observeCheckout, hkind, Except.ok.injEq] at hok
    simp only [verifyShape, hkind, verifyShallowShape, required, bind_eq_ok, demand_eq_ok, raiseIf_eq_ok,
      not_and, ne_eq, not_not] at hshape
    subst hok
    obtain ⟨shallow, hshallow, hempty⟩ := hshape
    refine { h with
      bounded := hd.bounded
      boundaries := hseen.boundaries
      sorted := hd.sorted
      shallow := ?_ }
    intro hfalse
    exact hempty (Option.some.inj (hshallow.symm.trans hfalse))
  | commit | ancestry | objectAvailability =>
    simp only [observeCheckout, hkind, Except.ok.injEq] at hok
    subst hok
    exact h

theorem retainedCheckout_eq_ok {checkouts : Dict Str CheckoutState} {c : CheckoutState}
    (h : retainedCheckout checkouts k = .ok c) :
    (checkouts.get? k = none ∧ c = { checkoutAlias := k } ∧ checkouts.size < maxCheckouts) ∨
      checkouts.get? k = some c := by
  unfold retainedCheckout at h
  split at h
  · rename_i hnone
    simp only [bind_eq_ok, exists_unit, raiseIf_eq_ok, not_le, pure_eq_ok] at h
    exact .inl ⟨hnone, h.2.symm, h.1⟩
  · rename_i hsome
    simp only [bind_eq_ok, exists_unit, pure_eq_ok] at h
    obtain ⟨-, rfl⟩ := h
    exact .inr hsome

theorem sound_new (hk : isBoundedIdentifier k = true) :
    CheckoutSound commits last k { checkoutAlias := k } where
  key := hk
  named := rfl
  commit := by simp
  ref := by simp
  attached := by simp
  artifact := by simp
  base := by simp
  remote := by simp
  bounded := Nat.zero_le _
  boundaries := List.forall_mem_nil _
  sorted := List.Pairwise.nil
  shallow := by simp
  refs := Nat.zero_le _
  eachRef := by simp

theorem applyCheckout_kept {checkouts checkouts' : Dict Str CheckoutState} {r : GitObservationRecordRef}
    (hsize : checkouts.size ≤ maxCheckouts)
    (hkept : ∀ j c, checkouts.get? j = some c → CheckoutKept commits last j c)
    (hname : isBoundedIdentifier r.checkoutAlias = true) (hd : DetailsKept r.details)
    (hseen : Seen commits r.details) (hbound : commits.size ≤ maxCommits) (hp : ProvenanceKept last p)
    (h : applyCheckout checkouts r p = .ok checkouts') :
    checkouts'.size ≤ maxCheckouts ∧
      ∀ j c, checkouts'.get? j = some c → CheckoutKept commits last j c := by
  simp only [applyCheckout, bind_eq_ok, pure_eq_ok] at h
  obtain ⟨retained, hretained, c, hc, rfl⟩ := h
  have hset (hsound : CheckoutSound commits last r.checkoutAlias retained) :
      CheckoutKept commits last r.checkoutAlias { c with lastObservation := some p } :=
    ⟨{ observeCheckout_sound hsound hd hseen hbound hp hc with }, p, rfl, hp⟩
  rcases retainedCheckout_eq_ok hretained with ⟨hnone, rfl, hlimit⟩ | hsome
  · constructor
    · rw [size_set_of_none hnone]
      exact hlimit
    · exact Dict.forall_get?_set (hset (sound_new hname)) hkept
  · constructor
    · rw [size_set_of_some hsome]
      exact hsize
    · exact Dict.forall_get?_set (hset (hkept _ _ hsome).toCheckoutSound) hkept

end Checkouts

section Repositories

variable {last' : Nat} {r : GitObservationRecordRef} {repository updated : RepositoryState}

theorem RepositoryKept.touch (h : RepositoryKept last repository) {commits : Dict Str CommitNode}
    (htouched : Touched last' repository.commits commits) (hle : last ≤ last') :
    RepositoryKept last' { repository with commits := commits } where
  identified := h.identified
  commitsBound := htouched.bound
  commits := htouched.kept
  relationsBound := h.relationsBound
  relations k x hx := (h.relations k x hx).mono htouched.grows hle
  objectsBound := h.objectsBound
  objects k o ho := (h.objects k o ho).mono htouched.grows hle
  missing := h.missing
  checkoutsBound := h.checkoutsBound
  checkouts k c hc := (h.checkouts k c hc).mono htouched.grows hle

theorem applyObservation_kept (h : RepositoryKept last repository) (hd : DetailsKept r.details)
    (hname : isBoundedIdentifier r.checkoutAlias = true) (hseen : Seen repository.commits r.details)
    (hp : ProvenanceKept last p) (hok : applyObservation repository r p = .ok updated) :
    RepositoryKept last updated ∧ updated.repositoryId = repository.repositoryId := by
  have hcheckout {checkouts : Dict Str CheckoutState}
      (hok : applyCheckout repository.checkouts r p = .ok checkouts) :
      RepositoryKept last { repository with checkouts := checkouts } := by
    obtain ⟨hsize, hkept⟩ := applyCheckout_kept h.checkoutsBound h.checkouts hname hd hseen
      h.commitsBound hp hok
    exact { h with checkoutsBound := hsize, checkouts := hkept }
  have hshape := hd.shape
  cases hkind : r.details.observationKind with
  | commit =>
    simp only [applyObservation, hkind, Except.ok.injEq] at hok
    subst hok
    exact ⟨h, rfl⟩
  | ancestry =>
    simp only [applyObservation, hkind, bind_eq_ok, pure_eq_ok] at hok
    obtain ⟨relations, hrelations, rfl⟩ := hok
    obtain ⟨x, hx⟩ := applyRelation_eq_ok hrelations
    obtain ⟨hsize, hkept⟩ := hx.kept h.relationsBound h.relations hp (hseen.ancestor _ hx.ancestor)
      (hseen.descendant _ hx.descendant)
    exact ⟨{ h with relationsBound := hsize, relations := hkept }, rfl⟩
  | objectAvailability =>
    simp only [applyObservation, hkind, bind_eq_ok, pure_eq_ok, Prod.exists] at hok
    simp only [verifyShape, hkind] at hshape
    obtain ⟨objects, missing, hobjects, rfl⟩ := hok
    obtain ⟨o, ho⟩ := applyObjectAvailability_eq_ok hobjects
    have hcommit : o.objectType = .commit → repository.commits.contains o.objectSha = true := by
      intro htype
      exact (hseen.object (htype ▸ ho.type) _ ho.sha).2
    obtain ⟨hsize, hkept⟩ := ho.kept h.objectsBound h.objects hp (hd.object _ ho.sha) hcommit hshape
    exact ⟨{ h with objectsBound := hsize, objects := hkept, missing := ho.missing_kept h.missing }, rfl⟩
  | checkout | ref | worktreeStatus | diff | shallowState =>
    simp only [applyObservation, hkind, bind_eq_ok, pure_eq_ok] at hok
    obtain ⟨checkouts, hcheckouts, rfl⟩ := hok
    exact ⟨hcheckout hcheckouts, rfl⟩

theorem updateRepository_kept (h : RepositoryKept last repository) (hle : last ≤ last')
    (hd : DetailsKept r.details) (hname : isBoundedIdentifier r.checkoutAlias = true)
    (hp : ProvenanceKept last' p) (hok : updateRepository repository r p = .ok updated) :
    RepositoryKept last' updated ∧ updated.repositoryId = repository.repositoryId := by
  simp only [updateRepository, bind_eq_ok, pure_eq_ok] at hok
  obtain ⟨commits, hcommits, middle, hmiddle, rfl⟩ := hok
  obtain ⟨htouched, hall⟩ := accumulate_touched h.commitsBound
    (fun k n hn => (h.commits k n hn).mono hle) hp hd.commitShas hcommits
  obtain ⟨hkept, hid⟩ := applyObservation_kept (h.touch htouched hle) hd hname (hd.seen hall) hp hmiddle
  exact ⟨{ hkept with }, hid⟩

theorem updateRepository_observation (hok : updateRepository repository r p = .ok updated) :
    updated.lastObservation = some p := by
  simp only [updateRepository, bind_eq_ok, pure_eq_ok] at hok
  obtain ⟨-, -, middle, -, rfl⟩ := hok
  rfl

end Repositories

end GitGraph

end TraceBackedMemory
