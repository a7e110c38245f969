import TraceBackedMemory.Effects.Reducer

namespace TraceBackedMemory

open Text Raising Projection

namespace Effects

variable {sha : Sha256} {q q' : EffectQueue sha} {e : CanonicalEvent sha} {x x' : EffectEntry sha}

section Queues

theorem parsedOr_eq_ok {α : Type} {message : String} {y : Except GateError α} {a : α} :
    parsedOr message y = .ok a ↔ y = .ok a := by
  cases y <;> simp [parsedOr]

theorem requestEffect_eq_ok :
    requestEffect q e = .ok q' ↔ ∃ r, parseEffectRequestedEvent e = .ok r ∧
      q.effects.get? r.effect.effectId = none ∧ q.heads.get? e.streamId = none ∧
      q' = ⟨q.effects.set r.effect.effectId (requestedEntry e r),
        q.heads.set e.streamId (eventMetadata e)⟩ := by
  simp only [requestEffect, bind_eq_ok, parsedOr_eq_ok, exists_unit, raiseIf_eq_ok, pure_eq_ok,
    not_or, Bool.not_eq_true, Dict.contains_eq_false, and_assoc, eq_comm (b := q')]

theorem deliverEffect_eq_ok :
    deliverEffect q e = .ok q' ↔ ∃ r x head x', deliveryReference e = .ok r ∧
      q.effects.get? r.effectId = some x ∧ q.heads.get? e.streamId = some head ∧
      headExtends head e [.worker] true = true ∧ applyDeliveryTransition x e r = .ok x' ∧
      q' = ⟨q.effects.set r.effectId x', q.heads.set e.streamId (eventMetadata e)⟩ := by
  simp only [deliverEffect, effectEntry, streamHead, bind_eq_ok, parsedOr_eq_ok, demand_eq_ok,
    exists_unit, raiseIf_eq_ok, pure_eq_ok, Bool.not_eq_false, eq_comm (b := q')]
  constructor
  · rintro ⟨r, hr, x, hx, head, hhead, hextends, x', hx', h⟩
    exact ⟨r, x, head, x', hr, hx, hhead, hextends, hx', h⟩
  · rintro ⟨r, x, head, x', hr, hx, hhead, hextends, hx', h⟩
    exact ⟨r, hr, x, hx, head, hhead, hextends, x', hx', h⟩

theorem transferEffect_eq_ok :
    transferEffect q e = .ok q' ↔ ∃ r x head x', providerReference e = .ok r ∧
      q.effects.get? r.effectId = some x ∧ q.heads.get? e.streamId = some head ∧
      headExtends head e [.service, .worker] false = true ∧
      applyProviderTransition x e r = .ok x' ∧
      q' = ⟨q.effects.set r.effectId x', q.heads.set e.streamId (eventMetadata e)⟩ := by
  simp only [transferEffect, effectEntry, streamHead, bind_eq_ok, parsedOr_eq_ok, demand_eq_ok,
    exists_unit, raiseIf_eq_ok, pure_eq_ok, Bool.not_eq_false, eq_comm (b := q')]
  constructor
  · rintro ⟨r, hr, x, hx, head, hhead, hextends, x', hx', h⟩
    exact ⟨r, x, head, x', hr, hx, hhead, hextends, hx', h⟩
  · rintro ⟨r, x, head, x', hr, hx, hhead, hextends, hx', h⟩
    exact ⟨r, hr, x, hx, head, hhead, hextends, x', hx', h⟩

def EffectEntry.bound (x : EffectEntry sha) (e : CanonicalEvent sha) (compensationId : Str) :
    EffectEntry sha :=
  { x with
    compensationEffectId := some compensationId
    history := x.history ++ [eventMetadata e] }

theorem requestCompensation_eq_ok (h : requestCompensation q e = .ok q') :
    ∃ r original, parseEffectCompensationRequestedEvent e = .ok r ∧
      q.effects.get? r.originalEffectId = some original ∧
      q.effects.get? r.compensationEffect.effectId = none ∧ q.heads.get? e.streamId = none ∧
      original.status = .succeeded ∧ original.compensationEffectId = none ∧
      q' = ⟨(q.effects.set r.originalEffectId
            (original.bound e r.compensationEffect.effectId)).set r.compensationEffect.effectId
          (compensationEntry e r), q.heads.set e.streamId (eventMetadata e)⟩ := by
  simp only [requestCompensation, effectEntry, bind_eq_ok, parsedOr_eq_ok, demand_eq_ok,
    exists_unit, raiseIf_eq_ok, pure_eq_ok, not_or, Bool.not_eq_true, Dict.contains_eq_false,
    ne_eq, Decidable.not_not] at h
  obtain ⟨r, hr, original, horiginal, ⟨hfresh, hhead, hstatus, _, _, _, hnone, _⟩, rfl⟩ := h
  exact ⟨r, original, hr, horiginal, hfresh, hhead, hstatus, hnone, rfl⟩

def EffectEntry.compensate (x : EffectEntry sha) (e : CanonicalEvent sha) : EffectEntry sha :=
  { x with
    status := .compensated
    history := x.history ++ [eventMetadata e] }

theorem compensateEffect_eq_ok (h : compensateEffect q e = .ok q') :
    ∃ r compensation original, parseEffectCompensatedEvent e = .ok r ∧
      q.effects.get? r.compensationEffectId = some compensation ∧
      q.effects.get? r.originalEffectId = some original ∧
      compensation.status = .succeeded ∧ original.status = .succeeded ∧
      q' = ⟨(q.effects.set r.compensationEffectId
            { compensation.record e with status := .succeeded }).set r.originalEffectId
          (original.compensate e), q.heads.set e.streamId (eventMetadata e)⟩ := by
  simp only [compensateEffect, effectEntry, streamHead, bind_eq_ok, parsedOr_eq_ok, demand_eq_ok,
    exists_unit, raiseIf_eq_ok, pure_eq_ok, not_or, ne_eq, Decidable.not_not] at h
  obtain ⟨r, hr, compensation, hcompensation, original, horiginal, _, _, _, _,
    ⟨_, hsucceeded, _, _, _, hstatus, _⟩, rfl⟩ := h
  exact ⟨r, compensation, original, hr, hcompensation, horiginal, hsucceeded, hstatus, rfl⟩

end Queues

section Entries

def providerTransition? (event : ReducerEvent sha) : Option ProviderEffectTransitionRef :=
  if event.sourceEvent.eventType = effectProviderTransitionEvent then
    (providerReference event.sourceEvent).toOption
  else none

def providerFor (id : Str) (event : ReducerEvent sha) : Option ProviderEffectTransitionRef :=
  (providerTransition? event).filter (fun r => decide (r.effectId = id))

structure SameProvider (x x' : EffectEntry sha) : Prop where
  attempts : x'.providerAttempts = x.providerAttempts
  status : x'.providerStatus = x.providerStatus
  pending : x'.pendingFailure = x.pendingFailure

structure Unstarted (x : EffectEntry sha) : Prop where
  attempts : x.providerAttempts = []
  status : x.providerStatus = .notStarted
  pending : x.pendingFailure = none

inductive EntryStep (id : Str) (event : ReducerEvent sha) :
    Option (EffectEntry sha) → Option (EffectEntry sha) → Prop where
  | same {o : Option (EffectEntry sha)} (hnone : providerFor id event = none) :
      EntryStep id event o o
  | created {x : EffectEntry sha} (hnone : providerFor id event = none) (hx : Unstarted x) :
      EntryStep id event none (some x)
  | marked {x x' : EffectEntry sha} (hnone : providerFor id event = none) (hx : SameProvider x x')
      (hstatus : x'.status = x.status ∨ x.status = .succeeded ∧ x'.status = .compensated) :
      EntryStep id event (some x) (some x')
  | delivered {x x' : EffectEntry sha} {r : EffectDeliveryTransitionRef sha}
      (hnone : providerFor id event = none)
      (h : applyDeliveryTransition x event.sourceEvent r = .ok x') :
      EntryStep id event (some x) (some x')
  | provided {x x' : EffectEntry sha} {r : ProviderEffectTransitionRef}
      (hr : providerFor id event = some r)
      (h : applyProviderTransition x event.sourceEvent r = .ok x') :
      EntryStep id event (some x) (some x')

theorem providerFor_eq_none {id : Str} {event : ReducerEvent sha}
    (h : event.sourceEvent.eventType ≠ effectProviderTransitionEvent) :
    providerFor id event = none := by
  rw [providerFor, providerTransition?, if_neg h]
  rfl

variable {event : ReducerEvent sha}

theorem EntryStep.of_request {id : Str} (hnone : providerFor id event = none)
    (h : requestEffect q event.sourceEvent = .ok q') :
    EntryStep id event (q.effects.get? id) (q'.effects.get? id) := by
  obtain ⟨r, _, hfresh, _, rfl⟩ := requestEffect_eq_ok.mp h
  rw [Dict.get?_set]
  split
  · next heq =>
    subst heq
    rw [hfresh]
    exact .created hnone ⟨rfl, rfl, rfl⟩
  · exact .same hnone

theorem EntryStep.of_delivery {id : Str} (hnone : providerFor id event = none)
    (h : deliverEffect q event.sourceEvent = .ok q') :
    EntryStep id event (q.effects.get? id) (q'.effects.get? id) := by
  obtain ⟨r, x, head, x', _, hx, _, _, hx', rfl⟩ := deliverEffect_eq_ok.mp h
  rw [Dict.get?_set]
  split
  · next heq =>
    subst heq
    rw [hx]
    exact .delivered hnone hx'
  · exact .same hnone

theorem EntryStep.of_transfer {id : Str}
    (htype : event.sourceEvent.eventType = effectProviderTransitionEvent)
    (h : transferEffect q event.sourceEvent = .ok q') :
    EntryStep id event (q.effects.get? id) (q'.effects.get? id) := by
  obtain ⟨r, x, head, x', hr, hx, _, _, hx', rfl⟩ := transferEffect_eq_ok.mp h
  have htransition : providerTransition? event = some r := by
    rw [providerTransition?, if_pos htype, hr]
    rfl
  rw [Dict.get?_set]
  split
  · next heq =>
    subst heq
    rw [hx]
    exact .provided (by simp [providerFor, htransition]) hx'
  · next hne =>
    refine .same ?_
    simpa [providerFor, htransition] using Ne.symm hne

theorem EntryStep.of_compensation_request {id : Str} (hnone : providerFor id event = none)
    (h : requestCompensation q event.sourceEvent = .ok q') :
    EntryStep id event (q.effects.get? id) (q'.effects.get? id) := by
  obtain ⟨r, original, _, horiginal, hfresh, _, _, _, rfl⟩ := requestCompensation_eq_ok h
  rw [Dict.get?_set]
  split
  · next heq =>
    subst heq
    rw [hfresh]
    exact .created hnone ⟨rfl, rfl, rfl⟩
  rw [Dict.get?_set]
  split
  · next heq =>
    subst heq
    rw [horiginal]
    exact .marked hnone ⟨rfl, rfl, rfl⟩ (.inl rfl)
  · exact .same hnone

theorem EntryStep.of_compensated {id : Str} (hnone : providerFor id event = none)
    (h : compensateEffect q event.sourceEvent = .ok q') :
    EntryStep id event (q.effects.get? id) (q'.effects.get? id) := by
  obtain ⟨r, compensation, original, _, hcompensation, horiginal, hsucceeded, hstatus, rfl⟩ :=
    compensateEffect_eq_ok h
  rw [Dict.get?_set]
  split
  · next heq =>
    subst heq
    rw [horiginal]
    exact .marked hnone ⟨rfl, rfl, rfl⟩ (.inr ⟨hstatus, rfl⟩)
  rw [Dict.get?_set]
  split
  · next heq =>
    subst heq
    rw [hcompensation]
    exact .marked hnone ⟨rfl, rfl, rfl⟩ (.inl hsucceeded.symm)
  · exact .same hnone

theorem deliveryEventTypes_ne {eventType : Str} (h : eventType ∈ deliveryEventTypes) :
    eventType ≠ effectProviderTransitionEvent := by
  rintro rfl
  revert h
  decide

-- What one event can do to the record of one effect; the other effects of the queue keep theirs.
theorem transition_entry (id : Str) (h : transition q event = .ok q') :
    EntryStep id event (q.effects.get? id) (q'.effects.get? id) := by
  simp only [transition, bind_eq_ok, exists_unit] at h
  obtain ⟨-, h⟩ := h
  split at h
  · next htype => exact .of_request (providerFor_eq_none (by rw [htype]; decide)) h
  split at h
  · next htype => exact .of_delivery (providerFor_eq_none (deliveryEventTypes_ne htype)) h
  split at h
  · next htype => exact .of_transfer htype h
  split at h
  · next htype => exact .of_compensation_request (providerFor_eq_none (by rw [htype]; decide)) h
  split at h
  · next htype => exact .of_compensated (providerFor_eq_none (by rw [htype]; decide)) h
  · cases h

end Entries

end Effects

end TraceBackedMemory
