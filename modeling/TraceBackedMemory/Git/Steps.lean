import TraceBackedMemory.Git.Updates

namespace TraceBackedMemory

open Text Raising Projection

namespace GitGraph

variable {sha : Sha256}

section Steps

variable {s s' : GraphState} {event : ReducerEvent sha}

structure Stepped (s : GraphState) (e : CanonicalEvent sha) (r : GitObservationRecordRef)
    (repository : RepositoryState) (s' : GraphState) : Prop where
  observed : Observed sha e.toEventEnvelope r
  valid : validatedStateCopy s = .ok ()
  position : s.lastGlobalPosition < e.globalPosition
  scope : ∀ scope, s.scope = some scope → scope = scopeOf e.toEventEnvelope
  updated : updateRepository (s.repository.getD { repositoryId := r.repositoryId }) r (provenance e r) =
    .ok repository
  next : s' = {
    scope := some (scopeOf e.toEventEnvelope)
    repository := some repository
    heads := s.heads.set e.streamId (headOf e r)
    lastGlobalPosition := e.globalPosition }

theorem parsedObservation_eq_ok {e : CanonicalEvent sha} {r : GitObservationRecordRef} :
    parsedObservation e = .ok r ↔ parseGitObservation sha e.toEventEnvelope = .ok r := by
  unfold parsedObservation
  split <;> simp_all

theorem retainedScope_eq_ok {e : CanonicalEvent sha} {scope : Scope} (h : retainedScope s e = .ok scope) :
    scope = scopeOf e.toEventEnvelope ∧ ∀ x, s.scope = some x → x = scopeOf e.toEventEnvelope := by
  unfold retainedScope at h
  split at h
  · rename_i hnone
    cases h
    refine ⟨rfl, ?_⟩
    intro x hx
    rw [hnone] at hx
    cases hx
  · rename_i retained hsome
    simp only [bind_eq_ok, exists_unit, raiseIf_eq_ok, ne_eq, not_not, pure_eq_ok] at h
    obtain ⟨hsame, rfl⟩ := h
    refine ⟨hsame, ?_⟩
    intro x hx
    rw [← Option.some.inj (hsome.symm.trans hx)]
    exact hsame

theorem transition_eq_ok (h : transition s event = .ok s') :
    ∃ r repository, parseGitObservation sha event.sourceEvent.toEventEnvelope = .ok r ∧
      Stepped s event.sourceEvent r repository s' := by
  simp only [transition, bind_eq_ok, exists_unit, parsedObservation_eq_ok, raiseIf_eq_ok, not_le,
    pure_eq_ok] at h
  obtain ⟨-, r, hparsed, hvalid, hposition, scope, hscope, -, repository, hrepository, rfl⟩ := h
  obtain ⟨rfl, hretained⟩ := retainedScope_eq_ok hscope
  exact ⟨r, repository, hparsed, observed_of_parse hparsed, hvalid, hposition, hretained, hrepository, rfl⟩

end Steps

section Keeping

variable {s s' : GraphState} {e : CanonicalEvent sha} {r : GitObservationRecordRef}
  {repository : RepositoryState}

theorem validated_iff : validatedStateCopy s = .ok () ↔ storable s = .ok () ∧
    ((s.lastGlobalPosition = 0 ∧ validateInitial s = .ok ()) ∨
      (s.lastGlobalPosition ≠ 0 ∧ ∃ scope repository observation,
        GraphKept s scope repository observation)) := by
  rw [validatedStateCopy, seq_eq_ok]
  refine and_congr_right fun _ => ?_
  by_cases hzero : s.lastGlobalPosition = 0
  · rw [if_pos hzero]
    simp [hzero]
  · rw [if_neg hzero, validateObserved_eq_ok]
    simp [hzero]

theorem repositoryKept_new {id : Str} (h : isBoundedIdentifier id = true) (last : Nat) :
    RepositoryKept last { repositoryId := id } where
  identified := h
  commitsBound := Nat.zero_le _
  commits := by simp
  relationsBound := Nat.zero_le _
  relations := by simp
  objectsBound := Nat.zero_le _
  objects := by simp
  missing _ := rfl
  checkoutsBound := Nat.zero_le _
  checkouts := by simp

structure Grounded (s : GraphState) (e : CanonicalEvent sha) (r : GitObservationRecordRef) : Prop where
  repository : RepositoryKept s.lastGlobalPosition (s.repository.getD { repositoryId := r.repositoryId })
  named : (s.repository.getD { repositoryId := r.repositoryId }).repositoryId = e.repositoryId
  heads : ∀ k h, s.heads.get? k = some h → HeadKept (scopeOf e.toEventEnvelope) s.lastGlobalPosition k h
  positions : (s.heads.entries.map (fun entry => entry.2.globalPosition)).Nodup

-- A validated state is either the initial one or one whose records all stand their checks.
theorem Stepped.grounded (h : Stepped s e r repository s') : Grounded s e r := by
  rcases (validated_iff.mp h.valid).2 with ⟨hzero, hinitial⟩ | ⟨-, scope, old, observation, hkept⟩
  · simp only [validateInitial, bind_eq_ok, exists_unit, raiseIf_eq_ok, not_or, Bool.not_eq_true,
      Option.isSome_eq_false_iff, Option.isNone_iff_eq_none, Bool.not_eq_false] at hinitial
    obtain ⟨⟨-, hrepository⟩, hempty⟩ := hinitial
    have hheads : s.heads.entries = [] := List.isEmpty_iff.mp hempty
    have hnone (k : Str) : s.heads.get? k = none := by
      rw [Dict.get?_eq_none, Dict.keys, hheads]
      exact List.not_mem_nil
    refine ⟨?_, ?_, ?_, ?_⟩
    · rw [hrepository]
      exact repositoryKept_new h.observed.repository.2 _
    · rw [hrepository]
      exact h.observed.repository.1
    · intro k head hhead
      rw [hnone] at hhead
      cases hhead
    · rw [hheads]
      exact List.nodup_nil
  · obtain rfl := h.scope scope hkept.scope_eq
    refine ⟨?_, ?_, hkept.heads, hkept.positions⟩
    · rw [hkept.repository_eq]
      exact hkept.kept
    · rw [hkept.repository_eq]
      exact hkept.named

theorem positions_set {heads : Dict Str StreamHead} {k : Str} {h : StreamHead}
    (hnodup : (heads.entries.map (fun entry => entry.2.globalPosition)).Nodup)
    (hfresh : ∀ j x, heads.get? j = some x → x.globalPosition ≠ h.globalPosition) :
    ((heads.set k h).entries.map (fun entry => entry.2.globalPosition)).Nodup := by
  have hentries : (heads.set k h).entries.Nodup := List.Nodup.of_map _ (heads.set k h).nodup
  refine (List.nodup_map_iff_inj_on hentries).mpr ?_
  rintro ⟨i, x⟩ hx ⟨j, y⟩ hy heq
  have hi := Dict.get?_eq_some.mpr hx
  have hj := Dict.get?_eq_some.mpr hy
  rw [Dict.get?_set] at hi hj
  split at hi
  · rename_i hik
    cases hi
    split at hj
    · rename_i hjk
      cases hj
      rw [hik, hjk]
    · exact absurd heq.symm (hfresh j y hj)
  · split at hj
    · cases hj
      exact absurd heq (hfresh i x hi)
    · exact List.inj_on_of_nodup_map hnodup (Dict.get?_eq_some.mp hi) (Dict.get?_eq_some.mp hj) heq

theorem Stepped.kept (h : Stepped s e r repository s') (hrecorded : canonicalTime e.recordedAt = true)
    (hplain : Plain e.toEventEnvelope) :
    GraphKept s' (scopeOf e.toEventEnvelope) repository (provenance e r) := by
  have hground := h.grounded
  have hle := h.position.le
  have hp := provenance_kept h.observed hrecorded hplain
  have hidentifiers := h.observed.identifiers
  obtain ⟨hkept, hid⟩ := updateRepository_kept hground.repository hle h.observed.details
    (hidentifiers _ (List.mem_of_getElem? (i := 3) rfl)) hp h.updated
  have hscope := scope_texts h.observed hplain
  have hhead : HeadKept (scopeOf e.toEventEnvelope) e.globalPosition e.streamId (headOf e r) := by
    refine ⟨hp.identifiers _ List.mem_cons_self, h.observed.sequence.2, hp.eventId, hp.digest,
      ⟨e.position_bounds.1, le_refl _⟩, ?_, hscope, hidentifiers⟩
    show headScope e.toEventEnvelope r = scopeOf e.toEventEnvelope
    rw [headScope, h.observed.repository.1, scopeOf]
  rw [h.next]
  refine ⟨rfl, hscope, rfl, hid.trans hground.named, hkept, ?_, ?_,
    updateRepository_observation h.updated, hp, headOf e r, Dict.get?_set_self _ _ _, rfl, ?_⟩
  · exact Dict.forall_get?_set hhead fun k x hx => (hground.heads k x hx).mono hle
  · refine positions_set hground.positions fun j x hx => ?_
    have hbound := (hground.heads j x hx).position.2
    exact Nat.ne_of_lt (hbound.trans_lt h.position)
  · exact ⟨rfl, rfl, rfl, h.observed.sequence.1.symm, rfl, rfl, rfl, rfl, rfl⟩

theorem Stepped.revalidates_iff (h : Stepped s e r repository s')
    (hrecorded : canonicalTime e.recordedAt = true) (hstorable : storable s' = .ok ()) :
    validatedStateCopy s' = .ok () ↔ Plain e.toEventEnvelope := by
  have hpositive : s'.lastGlobalPosition ≠ 0 := by
    rw [h.next]
    exact Nat.pos_iff_ne_zero.mp e.position_bounds.1
  rw [validated_iff]
  constructor
  · rintro ⟨-, ⟨hzero, -⟩ | ⟨-, scope, old, observation, hkept⟩⟩
    · exact absurd hzero hpositive
    · have hscope := hkept.scope_eq
      have hrepository := hkept.repository_eq
      rw [h.next] at hscope hrepository
      cases hscope
      cases hrepository
      have hobservation := hkept.observation_eq
      rw [updateRepository_observation h.updated] at hobservation
      cases hobservation
      exact plain_of_kept h.observed hkept.observed hkept.bounded
  · intro hplain
    exact ⟨hstorable, .inr ⟨hpositive, _, _, _, h.kept hrecorded hplain⟩⟩

end Keeping

end GitGraph

end TraceBackedMemory
