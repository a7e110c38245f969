import TraceBackedMemory.Effects.Steps
import TraceBackedMemory.Foundation.RetryProtocol
import TraceBackedMemory.Ledger.Interleaving
import TraceBackedMemory.Gate.SessionReducer

namespace TraceBackedMemory

open Text Raising Projection RetryProtocol

namespace Effects

variable {sha : Sha256} {x x' : EffectEntry sha} {e : CanonicalEvent sha}

section Courses

def ready (due time : Option Str) : Prop :=
  ∃ d t, due.bind instant? = some d ∧ time.bind instant? = some t ∧ d ≤ t

def reconciliationAct : Option ProviderReconciliationResult → Act (Option Str) (Option Str)
  | some .confirmed => .confirm
  | some .notFound => .miss
  | some .stillUnknown | none => .wonder

def actOf (time : Option Str) (r : ProviderEffectTransitionRef) : Act (Option Str) (Option Str) :=
  match r.stage with
  | .attemptStarted => .start time
  | .requestSubmitted => .submit
  | .resultUnknown => .lose
  | .receiptRecorded => .receive
  | .reconciled => reconciliationAct r.reconciliationResult
  | .retryScheduled => .schedule r.retryAt
  | .deadLettered => .abandon

def moveOf (time : Option Str) (r : ProviderEffectTransitionRef) : Move (Option Str) (Option Str) :=
  ⟨r.attemptSequence, actOf time r⟩

def ProviderAttempt.phase (a : ProviderAttempt) : Phase (Option Str) :=
  match a.status with
  | .notStarted => .idle
  | .inFlight => .inFlight
  | .submitted => .submitted
  | .unknown => .unknown
  | .notFound => .notFound
  | .retryWait => .waiting a.retryAt
  | .deadLettered => .dead
  | .succeeded => .done

def course (attempts : List ProviderAttempt) : Course (Option Str) :=
  ⟨attempts.length, attempts.getLast?.elim .idle ProviderAttempt.phase⟩

@[simp] theorem course_snoc (attempts : List ProviderAttempt) (a : ProviderAttempt) :
    course (attempts ++ [a]) = ⟨attempts.length + 1, a.phase⟩ := by
  simp [course]

-- What the record of an effect says about its attempts at every point of an accepted stream.
structure EffectEntry.Sound (x : EffectEntry sha) : Prop where
  status : x.providerStatus = x.providerAttempts.getLast?.elim .notStarted ProviderAttempt.status
  numbered : x.providerAttempts.map ProviderAttempt.attemptSequence =
    List.range' 1 x.providerAttempts.length
  earlier : ∀ a ∈ x.providerAttempts.dropLast, a.status = .retryWait
  pending : x.pendingFailure ≠ none → x.status = .leased

theorem Unstarted.sound (h : Unstarted x) : x.Sound := by
  refine ⟨?_, ?_, ?_, fun hpending => absurd h.pending hpending⟩
  · rw [h.attempts, h.status]
    rfl
  · rw [h.attempts]
    rfl
  · rw [h.attempts]
    exact List.forall_mem_nil _

theorem EffectEntry.Sound.keep (hx : x.Sound) (hattempts : x'.providerAttempts = x.providerAttempts)
    (hprovider : x'.providerStatus = x.providerStatus)
    (hpending : x'.pendingFailure ≠ none → x'.status = .leased) : x'.Sound := by
  refine ⟨?_, ?_, ?_, hpending⟩
  · rw [hprovider, hattempts]
    exact hx.status
  · rw [hattempts]
    exact hx.numbered
  · rw [hattempts]
    exact hx.earlier

theorem range_succ (n : Nat) : List.range' 1 (n + 1) = List.range' 1 n ++ [n + 1] := by
  rw [List.range'_concat, Nat.one_mul, Nat.add_comm]

theorem EffectEntry.Sound.snoc {front : List ProviderAttempt} {a : ProviderAttempt}
    (hattempts : x.providerAttempts = front ++ [a]) (hstatus : x.providerStatus = a.status)
    (hnumbered : front.map ProviderAttempt.attemptSequence = List.range' 1 front.length)
    (hsequence : a.attemptSequence = front.length + 1)
    (hearlier : ∀ b ∈ front, b.status = .retryWait) (hpending : x.pendingFailure = none) :
    x.Sound := by
  refine ⟨?_, ?_, ?_, fun hne => absurd hpending hne⟩
  · rw [hattempts, List.getLast?_concat]
    exact hstatus
  · rw [hattempts, List.map_append, hnumbered, List.length_append, List.map_singleton, hsequence]
    exact (range_succ _).symm
  · rw [hattempts, List.dropLast_concat]
    exact hearlier

theorem EffectEntry.Sound.split {front : List ProviderAttempt} {a : ProviderAttempt} (hx : x.Sound)
    (hattempts : x.providerAttempts = front ++ [a]) :
    front.map ProviderAttempt.attemptSequence = List.range' 1 front.length ∧
      a.attemptSequence = front.length + 1 ∧ (∀ b ∈ front, b.status = .retryWait) ∧
      x.providerStatus = a.status := by
  have hnumbered := hx.numbered
  have hearlier := hx.earlier
  have hstatus := hx.status
  rw [hattempts, List.map_append, List.length_append, List.length_singleton, range_succ] at hnumbered
  rw [hattempts, List.dropLast_concat] at hearlier
  rw [hattempts, List.getLast?_concat] at hstatus
  obtain ⟨hfront, hlast⟩ := List.append_inj' hnumbered rfl
  exact ⟨hfront, List.singleton_inj.mp hlast, hearlier, hstatus⟩

end Courses

section Deliveries

variable {r : EffectDeliveryTransitionRef sha}

theorem deliverEvent_provider (h : deliverEvent x e r = .ok x') :
    x'.providerAttempts = x.providerAttempts ∧ x'.providerStatus = x.providerStatus := by
  unfold deliverEvent at h
  split at h
  · simp only [bind_eq_ok, exists_unit, raiseIf_eq_ok, pure_eq_ok] at h
    obtain ⟨_, rfl⟩ := h
    exact ⟨rfl, rfl⟩
  split at h
  · simp only [bind_eq_ok, exists_unit, raiseIf_eq_ok, pure_eq_ok] at h
    obtain ⟨_, rfl⟩ := h
    exact ⟨rfl, rfl⟩
  split at h <;>
    simp only [bind_eq_ok, exists_unit, raiseIf_eq_ok, pure_eq_ok] at h <;>
    obtain ⟨_, rfl⟩ := h <;> exact ⟨rfl, rfl⟩

theorem deliverEvent_status (hx : x.Sound) (h : deliverEvent x e r = .ok x') :
    x.status ∈ [EffectStatus.ready, .retry, .leased] ∧
      (x'.pendingFailure ≠ none → x'.status = .leased) := by
  unfold deliverEvent at h
  split at h
  · simp only [bind_eq_ok, exists_unit, raiseIf_eq_ok, pure_eq_ok, not_or, ne_eq,
      Decidable.not_not] at h
    obtain ⟨⟨hleased, _⟩, rfl⟩ := h
    exact ⟨by simp [hleased], fun _ => hleased⟩
  split at h
  · simp only [bind_eq_ok, exists_unit, raiseIf_eq_ok, pure_eq_ok, ne_eq, Decidable.not_not] at h
    obtain ⟨hpending, rfl⟩ := h
    have hleased := hx.pending (by simp [hpending])
    exact ⟨by simp [hleased], fun hne => absurd rfl hne⟩
  split at h
  · simp only [bind_eq_ok, exists_unit, raiseIf_eq_ok, pure_eq_ok, not_or, Decidable.not_not] at h
    obtain ⟨⟨hstatus, _⟩, rfl⟩ := h
    exact ⟨hstatus, fun hne => absurd rfl hne⟩
  · simp only [bind_eq_ok, exists_unit, raiseIf_eq_ok, pure_eq_ok, not_or, ne_eq,
      Decidable.not_not] at h
    obtain ⟨⟨hleased, _⟩, rfl⟩ := h
    exact ⟨by simp [hleased], fun hne => absurd rfl hne⟩

theorem applyDelivery_sound (hx : x.Sound) (h : applyDeliveryTransition x e r = .ok x') :
    x'.Sound ∧ x'.providerAttempts = x.providerAttempts ∧
      x.status ∈ [EffectStatus.ready, .retry, .leased] := by
  simp only [applyDeliveryTransition, bind_eq_ok, demand_eq_ok, exists_unit, raiseIf_eq_ok,
    pure_eq_ok] at h
  obtain ⟨_, _, _, updated, hupdated, rfl⟩ := h
  obtain ⟨hattempts, hprovider⟩ := deliverEvent_provider hupdated
  obtain ⟨hstatus, hpending⟩ := deliverEvent_status hx hupdated
  exact ⟨hx.keep hattempts hprovider hpending, hattempts, hstatus⟩

end Deliveries

section Providers

variable {r : ProviderEffectTransitionRef} {entry : TransitionEntry}

def EffectStatus.closed : EffectStatus → Bool
  | .succeeded | .compensated | .deadLetter => true
  | .ready | .leased | .retry => false

theorem verifyRetrySchedule_eq_ok {a : ProviderAttempt} (h : verifyRetrySchedule a e = .ok ()) :
    a.status = .retryWait ∧ ready a.retryAt e.occurredAt := by
  simp only [verifyRetrySchedule, bind_eq_ok, exists_unit, raiseIf_eq_ok, demand_eq_ok, ne_eq,
    Decidable.not_not, not_lt] at h
  obtain ⟨hstatus, retryAt, hretry, occurred, hoccurred, scheduled, hscheduled, hle⟩ := h
  exact ⟨hstatus, scheduled, occurred, by simp [hretry, hscheduled], hoccurred, hle⟩

theorem startAttempt_eq_ok (h : startAttempt x e r entry = .ok x') :
    x.status ≠ .deadLetter ∧ x.providerStatus ∈ [ProviderStatus.notStarted, .retryWait] ∧
      r.attemptSequence = x.providerAttempts.length + 1 ∧
      (∀ previous, x.providerAttempts.getLast? = some previous →
        previous.status = .retryWait ∧ ready previous.retryAt e.occurredAt) ∧
      ∃ a, a.status = .inFlight ∧ a.attemptSequence = r.attemptSequence ∧
        x' = { x with
          providerAttempts := x.providerAttempts ++ [a]
          providerStatus := .inFlight
          providerRetryAt := none } := by
  simp only [startAttempt, bind_eq_ok, exists_unit, raiseIf_eq_ok, pure_eq_ok, not_or, ne_eq,
    Decidable.not_not] at h
  obtain ⟨⟨hprovider, hstatus, hsequence⟩, hlast, rfl⟩ := h
  refine ⟨hstatus, hprovider, hsequence, ?_, _, rfl, rfl, rfl⟩
  intro previous hprevious
  rw [hprevious] at hlast
  exact verifyRetrySchedule_eq_ok hlast

structure Advances (x : EffectEntry sha) (a : ProviderAttempt) (act : Act (Option Str) (Option Str))
    (x' : EffectEntry sha) (a' : ProviderAttempt) : Prop where
  step : ∀ n, Step ready ⟨n, a.phase⟩ ⟨n, act⟩ ⟨n, a'.phase⟩
  status : x'.providerStatus = a'.status
  sequence : a'.attemptSequence = a.attemptSequence
  attempts : x'.providerAttempts = x.providerAttempts
  pending : x'.pendingFailure = x.pendingFailure
  closed : x.status.closed = true → x'.status.closed = true

theorem advances_confirm {a b : ProviderAttempt} {act : Act (Option Str) (Option Str)}
    (hsequence : b.attemptSequence = a.attemptSequence)
    (hstep : ∀ n, Step ready ⟨n, a.phase⟩ ⟨n, act⟩ ⟨n, .done⟩) :
    Advances x a act x.confirm (b.succeed r) := by
  refine ⟨hstep, rfl, hsequence, rfl, rfl, fun hclosed => ?_⟩
  simp only [EffectEntry.confirm]
  split
  · rfl
  · exact hclosed

theorem reconcileAttempt_advances {a a' : ProviderAttempt} {time : Option Str}
    (hstage : r.stage = .reconciled) (h : reconcileAttempt x a r entry = .ok (x', a')) :
    Advances x a (actOf time r) x' a' := by
  simp only [reconcileAttempt, bind_eq_ok, exists_unit, raiseIf_eq_ok, ne_eq, Decidable.not_not] at h
  obtain ⟨hunknown, -, h⟩ := h
  have hphase : a.phase = .unknown := by rw [ProviderAttempt.phase, hunknown]
  have hact : actOf time r = reconciliationAct r.reconciliationResult := by rw [actOf, hstage]
  rw [hact]
  cases hresult : r.reconciliationResult with
  | none =>
    rw [hresult] at h
    cases h
    refine ⟨fun n => ?_, hunknown.symm, rfl, rfl, rfl, id⟩
    rw [hphase, ProviderAttempt.phase, hunknown]
    exact .wonder n
  | some result =>
    rw [hresult] at h
    cases result with
    | confirmed =>
      cases h
      refine advances_confirm rfl fun n => ?_
      rw [hphase]
      exact .confirm n
    | notFound =>
      cases h
      refine ⟨fun n => ?_, rfl, rfl, rfl, rfl, id⟩
      rw [hphase]
      exact .miss n
    | stillUnknown =>
      cases h
      refine ⟨fun n => ?_, hunknown.symm, rfl, rfl, rfl, id⟩
      rw [hphase, ProviderAttempt.phase, hunknown]
      exact .wonder n

theorem active_phase {a : ProviderAttempt}
    (h : a.status ∈ [ProviderStatus.inFlight, .submitted]) :
    a.phase = .inFlight ∨ a.phase = .submitted := by
  simp only [List.mem_cons, List.not_mem_nil, or_false] at h
  rcases h with h | h <;> simp [ProviderAttempt.phase, h]

theorem continueAttempt_advances (time : Option Str) {a a' : ProviderAttempt}
    (h : continueAttempt x a r entry = .ok (x', a')) : Advances x a (actOf time r) x' a' := by
  cases hstage : r.stage with
  | attemptStarted =>
    rw [continueAttempt, hstage] at h
    cases h
  | requestSubmitted =>
    simp only [continueAttempt, hstage, bind_eq_ok, exists_unit, raiseIf_eq_ok, pure_eq_ok,
      ne_eq, Decidable.not_not, Prod.mk.injEq] at h
    obtain ⟨hstatus, rfl, rfl⟩ := h
    refine ⟨fun n => ?_, rfl, rfl, rfl, rfl, id⟩
    rw [actOf, hstage, ProviderAttempt.phase, hstatus]
    exact .submit n
  | resultUnknown =>
    simp only [continueAttempt, hstage, bind_eq_ok, exists_unit, raiseIf_eq_ok, pure_eq_ok,
      Decidable.not_not, Prod.mk.injEq] at h
    obtain ⟨hstatus, rfl, rfl⟩ := h
    refine ⟨fun n => ?_, rfl, rfl, rfl, rfl, id⟩
    rw [actOf, hstage]
    exact .lose (active_phase hstatus)
  | receiptRecorded =>
    simp only [continueAttempt, hstage, bind_eq_ok, exists_unit, raiseIf_eq_ok, pure_eq_ok,
      Decidable.not_not, Prod.mk.injEq] at h
    obtain ⟨hstatus, rfl, rfl⟩ := h
    refine advances_confirm rfl fun n => ?_
    rw [actOf, hstage]
    exact .receive (active_phase hstatus)
  | reconciled =>
    rw [continueAttempt, hstage] at h
    exact reconcileAttempt_advances hstage h
  | retryScheduled =>
    simp only [continueAttempt, hstage, bind_eq_ok, exists_unit, raiseIf_eq_ok, pure_eq_ok, not_or,
      ne_eq, Decidable.not_not, Prod.mk.injEq] at h
    obtain ⟨⟨hstatus, -⟩, rfl, rfl⟩ := h
    refine ⟨fun n => ?_, rfl, rfl, rfl, rfl, id⟩
    rw [actOf, hstage, ProviderAttempt.phase, hstatus]
    exact .schedule n _
  | deadLettered =>
    simp only [continueAttempt, hstage, bind_eq_ok, exists_unit, raiseIf_eq_ok, pure_eq_ok, not_or,
      ne_eq, Decidable.not_not, Prod.mk.injEq] at h
    obtain ⟨⟨hstatus, -⟩, rfl, rfl⟩ := h
    refine ⟨fun n => ?_, rfl, rfl, rfl, rfl, fun _ => rfl⟩
    rw [actOf, hstage, ProviderAttempt.phase, hstatus]
    exact .abandon n

theorem verifyProviderAttemptIdentity_eq_ok {a : ProviderAttempt}
    (h : verifyProviderAttemptIdentity a r = .ok ()) : a.attemptSequence = r.attemptSequence := by
  simp only [verifyProviderAttemptIdentity, raiseIf_eq_ok, not_or, ne_eq, Decidable.not_not] at h
  exact h.2.1

theorem advanceAttempt_eq_ok (h : advanceAttempt x r entry = .ok x') :
    ∃ front a updated a', x.providerAttempts = front ++ [a] ∧ a.attemptSequence = r.attemptSequence ∧
      continueAttempt x a r entry = .ok (updated, a') ∧
      x' = { updated with
        providerAttempts := updated.providerAttempts.dropLast ++
          [{ a' with history := a'.history ++ [entry] }] } := by
  simp only [advanceAttempt, bind_eq_ok, demand_eq_ok, exists_unit, raiseIf_eq_ok, pure_eq_ok] at h
  obtain ⟨a, hlast, hidentity, -, ⟨updated, a'⟩, hcontinue, rfl⟩ := h
  obtain ⟨front, hfront⟩ := List.getLast?_eq_some_iff.mp hlast
  exact ⟨front, a, updated, a', hfront, verifyProviderAttemptIdentity_eq_ok hidentity, hcontinue, rfl⟩

theorem waiting_of_start (hx : x.Sound) (h : startAttempt x e r entry = .ok x') :
    ∀ a ∈ x.providerAttempts, a.status = .retryWait := by
  obtain ⟨-, -, -, hlast, -⟩ := startAttempt_eq_ok h
  rcases List.eq_nil_or_concat x.providerAttempts with hnil | ⟨front, previous, hattempts⟩
  · rw [hnil]
    exact List.forall_mem_nil _
  rw [List.concat_eq_append] at hattempts
  obtain ⟨-, -, hearlier, -⟩ := hx.split hattempts
  rw [hattempts, List.getLast?_concat] at hlast
  rw [hattempts]
  intro a ha
  rcases List.mem_append.mp ha with ha | ha
  · exact hearlier a ha
  · rw [List.mem_singleton.mp ha]
    exact (hlast previous rfl).1

theorem startAttempt_step (hx : x.Sound) (hpending : x.pendingFailure = none)
    (hstage : r.stage = .attemptStarted) (h : startAttempt x e r entry = .ok x') :
    Step ready (course x.providerAttempts) (moveOf e.occurredAt r) (course x'.providerAttempts) ∧
      x'.Sound := by
  have hwaiting := waiting_of_start hx h
  obtain ⟨-, -, hsequence, hlast, a, hflight, hnumber, rfl⟩ := startAttempt_eq_ok h
  have hphase : a.phase = .inFlight := by rw [ProviderAttempt.phase, hflight]
  refine ⟨?_, .snoc rfl hflight.symm hx.numbered (hnumber.trans hsequence) hwaiting hpending⟩
  rw [moveOf, actOf, hstage, hsequence]
  simp only [course_snoc, hphase]
  rcases List.eq_nil_or_concat x.providerAttempts with hnil | ⟨front, previous, hattempts⟩
  · rw [hnil]
    exact .first _
  rw [List.concat_eq_append] at hattempts
  rw [hattempts, List.getLast?_concat] at hlast
  obtain ⟨hretry, hready⟩ := hlast previous rfl
  rw [hattempts, course_snoc, ProviderAttempt.phase, hretry, List.length_append]
  exact .retry hready

theorem advanceAttempt_step (time : Option Str) (hx : x.Sound) (hpending : x.pendingFailure = none)
    (h : advanceAttempt x r entry = .ok x') :
    Step ready (course x.providerAttempts) (moveOf time r) (course x'.providerAttempts) ∧ x'.Sound ∧
      (x.status.closed = true → x'.status.closed = true) := by
  obtain ⟨front, a, updated, a', hattempts, hsequence, hcontinue, rfl⟩ := advanceAttempt_eq_ok h
  have hadvances := continueAttempt_advances time hcontinue
  obtain ⟨hnumbered, hlast, hearlier, -⟩ := hx.split hattempts
  have hfront : updated.providerAttempts.dropLast = front := by
    rw [hadvances.attempts, hattempts, List.dropLast_concat]
  refine ⟨?_, .snoc (congrArg (· ++ _) hfront) hadvances.status hnumbered
    (hadvances.sequence.trans hlast) hearlier (hadvances.pending.trans hpending), hadvances.closed⟩
  simp only [hfront, hattempts, course_snoc, moveOf, ← hsequence, hlast]
  exact hadvances.step _

theorem applyProvider_eq_ok (h : applyProviderTransition x e r = .ok x') :
    x.status ∉ [EffectStatus.succeeded, .compensated] ∧ x.pendingFailure = none ∧
      ∃ updated, applyStage x e r ⟨r, eventMetadata e⟩ = .ok updated ∧
        x' = { updated with
          providerTransitions := updated.providerTransitions ++ [⟨r, eventMetadata e⟩]
          history := updated.history ++ [eventMetadata e]
          metadata := eventMetadata e } := by
  simp only [applyProviderTransition, bind_eq_ok, exists_unit, raiseIf_eq_ok, pure_eq_ok, ne_eq,
    Decidable.not_not] at h
  obtain ⟨-, hstatus, hpending, updated, hupdated, rfl⟩ := h
  exact ⟨hstatus, hpending, updated, hupdated, rfl⟩

theorem EffectEntry.Sound.relabel (hx : x.Sound) (transitions : List TransitionEntry)
    (history : List EventMetadata) (metadata : EventMetadata) :
    EffectEntry.Sound { x with
      providerTransitions := transitions
      history := history
      metadata := metadata } :=
  hx.keep rfl rfl hx.pending

theorem applyProvider_step (hx : x.Sound) (h : applyProviderTransition x e r = .ok x') :
    Step ready (course x.providerAttempts) (moveOf e.occurredAt r) (course x'.providerAttempts) ∧
      x'.Sound := by
  obtain ⟨-, hpending, updated, hupdated, rfl⟩ := applyProvider_eq_ok h
  unfold applyStage at hupdated
  split at hupdated
  · next hstage =>
    obtain ⟨hstep, hsound⟩ := startAttempt_step hx hpending hstage hupdated
    exact ⟨hstep, hsound.relabel _ _ _⟩
  · obtain ⟨hstep, hsound, -⟩ := advanceAttempt_step _ hx hpending hupdated
    exact ⟨hstep, hsound.relabel _ _ _⟩

theorem applyProvider_start (hx : x.Sound) (hstage : r.stage = .attemptStarted)
    (h : applyProviderTransition x e r = .ok x') :
    x.status.closed = false ∧ ∀ a ∈ x.providerAttempts, a.status = .retryWait := by
  obtain ⟨hstatus, -, updated, hupdated, rfl⟩ := applyProvider_eq_ok h
  rw [applyStage, if_pos hstage] at hupdated
  refine ⟨?_, waiting_of_start hx hupdated⟩
  have hdead := (startAttempt_eq_ok hupdated).1
  cases hcase : x.status <;> simp_all [EffectStatus.closed]

theorem applyProvider_closed (hx : x.Sound) (hclosed : x.status.closed = true)
    (h : applyProviderTransition x e r = .ok x') :
    r.stage ≠ .attemptStarted ∧ x'.status.closed = true := by
  have hstage : r.stage ≠ .attemptStarted := by
    intro hstage
    exact Bool.noConfusion ((applyProvider_start hx hstage h).1.symm.trans hclosed)
  obtain ⟨-, hpending, updated, hupdated, rfl⟩ := applyProvider_eq_ok h
  rw [applyStage, if_neg hstage] at hupdated
  exact ⟨hstage, (advanceAttempt_step none hx hpending hupdated).2.2 hclosed⟩

end Providers

section Runs

variable {id : Str} {events : List (ReducerEvent sha)} {q q' : EffectQueue sha}

structure Occurrence where
  time : Option Str
  reference : ProviderEffectTransitionRef

def Occurrence.move (o : Occurrence) : Move (Option Str) (Option Str) := moveOf o.time o.reference

def occurrence? (id : Str) (event : ReducerEvent sha) : Option Occurrence :=
  (providerFor id event).map (fun r => ⟨event.sourceEvent.occurredAt, r⟩)

def occurrences (id : Str) (events : List (ReducerEvent sha)) : List Occurrence :=
  events.filterMap (occurrence? id)

def movesOf (id : Str) (events : List (ReducerEvent sha)) : List (Move (Option Str) (Option Str)) :=
  (occurrences id events).map Occurrence.move

theorem movesOf_append (events more : List (ReducerEvent sha)) :
    movesOf id (events ++ more) = movesOf id events ++ movesOf id more := by
  simp only [movesOf, occurrences, List.filterMap_append, List.map_append]

theorem movesOf_silent {event : ReducerEvent sha} (h : providerFor id event = none) :
    movesOf id [event] = [] := by
  simp [movesOf, occurrences, occurrence?, h]

theorem movesOf_provided {event : ReducerEvent sha} {r : ProviderEffectTransitionRef}
    (h : providerFor id event = some r) :
    movesOf id [event] = [moveOf event.sourceEvent.occurredAt r] := by
  simp [movesOf, occurrences, occurrence?, h, Occurrence.move]

def courseOf (o : Option (EffectEntry sha)) : Course (Option Str) :=
  o.elim (course []) (fun x => course x.providerAttempts)

structure Tracked (id : Str) (events : List (ReducerEvent sha)) (o : Option (EffectEntry sha)) :
    Prop where
  course : Run ready (movesOf id events) (courseOf o)
  sound : ∀ x, o = some x → x.Sound

theorem tracked_initial : Tracked id [] ((initialQueue : EffectQueue sha).effects.get? id) :=
  ⟨.nil, by simp [initialQueue]⟩

theorem EntryStep.sound {event : ReducerEvent sha} {o o' : Option (EffectEntry sha)}
    (h : EntryStep id event o o') (ho : ∀ x, o = some x → x.Sound) : ∀ x, o' = some x → x.Sound := by
  cases h with
  | same => exact ho
  | created hnone hx =>
    rintro _ ⟨⟩
    exact hx.sound
  | @marked x x' hnone hx hstatus =>
    rintro _ ⟨⟩
    have hsound := ho x rfl
    refine hsound.keep hx.attempts hx.status fun hpending => ?_
    rw [hx.pending] at hpending
    have hleased := hsound.pending hpending
    rcases hstatus with hstatus | ⟨hsucceeded, -⟩
    · exact hstatus.trans hleased
    · rw [hleased] at hsucceeded
      cases hsucceeded
  | @delivered x x' r hnone happly =>
    rintro _ ⟨⟩
    exact (applyDelivery_sound (ho x rfl) happly).1
  | @provided x x' r hr happly =>
    rintro _ ⟨⟩
    exact (applyProvider_step (ho x rfl) happly).2

theorem EntryStep.tracked {event : ReducerEvent sha} {o o' : Option (EffectEntry sha)}
    (h : EntryStep id event o o') (ho : Tracked id events o) : Tracked id (events ++ [event]) o' := by
  refine ⟨?_, h.sound ho.sound⟩
  have hkeep (hnone : providerFor id event = none) : movesOf id (events ++ [event]) = movesOf id events := by
    rw [movesOf_append, movesOf_silent hnone, List.append_nil]
  cases h with
  | same hnone =>
    rw [hkeep hnone]
    exact ho.course
  | created hnone hx =>
    rw [hkeep hnone, courseOf, Option.elim_some, hx.attempts]
    exact ho.course
  | marked hnone hx =>
    rw [hkeep hnone, courseOf, Option.elim_some, hx.attempts]
    exact ho.course
  | @delivered x x' r hnone happly =>
    rw [hkeep hnone, courseOf, Option.elim_some, (applyDelivery_sound (ho.sound x rfl) happly).2.1]
    exact ho.course
  | @provided x x' r hr happly =>
    rw [movesOf_append, movesOf_provided hr]
    exact ho.course.snoc (applyProvider_step (ho.sound x rfl) happly).1

theorem foldEffects_snoc {event : ReducerEvent sha} :
    foldEffects (events ++ [event]) = .ok q' ↔
      ∃ q, foldEffects events = .ok q ∧ transition q event = .ok q' := by
  rw [foldEffects, accumulate_append, bind_eq_ok]
  simp only [accumulate, bind_eq_ok, foldEffects, Except.ok.injEq, exists_eq_right]

theorem foldEffects_split {before after : List (ReducerEvent sha)}
    (h : foldEffects (before ++ after) = .ok q') : ∃ q, foldEffects before = .ok q := by
  rw [foldEffects, accumulate_append, bind_eq_ok] at h
  obtain ⟨q, hq, -⟩ := h
  exact ⟨q, hq⟩

theorem foldEffects_tracked (id : Str) (h : foldEffects events = .ok q) :
    Tracked id events (q.effects.get? id) := by
  induction events using List.reverseRecOn generalizing q with
  | nil =>
    cases h
    exact tracked_initial
  | append_singleton events event ih =>
    obtain ⟨q₀, hq₀, hstep⟩ := foldEffects_snoc.mp h
    exact (transition_entry id hstep).tracked (ih hq₀)

theorem EntryStep.closed {event : ReducerEvent sha} {o' : Option (EffectEntry sha)}
    (h : EntryStep id event (some x) o') (hx : x.Sound) (hclosed : x.status.closed = true) :
    (∀ r, providerFor id event = some r → r.stage ≠ .attemptStarted) ∧
      ∃ x', o' = some x' ∧ x'.status.closed = true := by
  have hsilent (hnone : providerFor id event = none) :
      ∀ r, providerFor id event = some r → r.stage ≠ .attemptStarted := by
    rw [hnone]
    rintro _ ⟨⟩
  cases h with
  | same hnone => exact ⟨hsilent hnone, x, rfl, hclosed⟩
  | @marked _ x' hnone _ hstatus =>
    refine ⟨hsilent hnone, x', rfl, ?_⟩
    rcases hstatus with hstatus | ⟨-, hstatus⟩
    · rw [hstatus]
      exact hclosed
    · rw [hstatus]
      rfl
  | delivered hnone happly =>
    have hopen := (applyDelivery_sound hx happly).2.2
    simp only [List.mem_cons, List.not_mem_nil, or_false] at hopen
    rcases hopen with hopen | hopen | hopen <;> rw [hopen] at hclosed <;> cases hclosed
  | @provided _ x' r hr happly =>
    obtain ⟨hstage, hclosed'⟩ := applyProvider_closed hx hclosed happly
    refine ⟨?_, x', rfl, hclosed'⟩
    rw [hr]
    rintro _ ⟨⟩
    exact hstage

end Runs

section Safety

variable {id : Str} {events : List (ReducerEvent sha)} {q : EffectQueue sha}

namespace Occurrence

def starts (o : Occurrence) : Prop := o.reference.stage = .attemptStarted

def startNumber (o : Occurrence) : Option Nat :=
  if o.reference.stage = .attemptStarted then some o.reference.attemptSequence else none

def notFound (o : Occurrence) : Prop :=
  o.reference.stage = .reconciled ∧ o.reference.reconciliationResult = some .notFound

def schedulesRetry (o : Occurrence) : Prop := o.reference.stage = .retryScheduled

def succeeds (o : Occurrence) : Bool :=
  decide (o.reference.stage = .receiptRecorded ∨
    o.reference.stage = .reconciled ∧ o.reference.reconciliationResult = some .confirmed)

end Occurrence

-- A retry comes right after the reconciliation and the schedule of the attempt before it: no other
-- transition of the same effect stands between them.
def Retries (before : List Occurrence) (o : Occurrence) : Prop :=
  ∃ front missed scheduled, before = front ++ [missed, scheduled] ∧ missed.notFound ∧
    scheduled.schedulesRetry ∧ missed.reference.attemptSequence + 1 = o.reference.attemptSequence ∧
    scheduled.reference.attemptSequence + 1 = o.reference.attemptSequence ∧
    ready scheduled.reference.retryAt o.time

structure ProviderSafe (id : Str) (events : List (ReducerEvent sha)) (q : EffectQueue sha) : Prop where
  increasing : ((occurrences id events).filterMap Occurrence.startNumber).Pairwise (· < ·)
  projected : ∀ x, q.effects.get? id = some x → x.providerAttempts.map ProviderAttempt.attemptSequence =
    (occurrences id events).filterMap Occurrence.startNumber
  retried : ∀ before event after o, events = before ++ event :: after →
    occurrence? id event = some o → o.starts →
      o.reference.attemptSequence = 1 ∧ occurrences id before = [] ∨ Retries (occurrences id before) o
  resolved : ∀ before event after o q₀ x, events = before ++ event :: after →
    occurrence? id event = some o → o.starts → foldEffects before = .ok q₀ →
      q₀.effects.get? id = some x → ∀ a ∈ x.providerAttempts, a.status = .retryWait
  once : (occurrences id events).countP Occurrence.succeeds ≤ 1
  settled : ∀ x, q.effects.get? id = some x →
    x.providerAttempts.countP (fun a => decide (a.status = .succeeded)) ≤ 1
  closed : ∀ before after q₀ x, events = before ++ after → foldEffects before = .ok q₀ →
    q₀.effects.get? id = some x → x.status ∈ [EffectStatus.succeeded, .compensated, .deadLetter] →
      ∀ o ∈ occurrences id after, ¬o.starts

theorem Occurrence.startNumber_move (o : Occurrence) :
    RetryProtocol.startNumber o.move = o.startNumber := by
  unfold Occurrence.startNumber Occurrence.move moveOf RetryProtocol.startNumber actOf
  cases hstage : o.reference.stage with
  | reconciled =>
    cases o.reference.reconciliationResult with
    | none => rfl
    | some result => cases result <;> rfl
  | _ => rfl

theorem Occurrence.succeeds_move (o : Occurrence) :
    RetryProtocol.succeeds o.move = o.succeeds := by
  unfold Occurrence.succeeds Occurrence.move moveOf RetryProtocol.succeeds actOf
  cases hstage : o.reference.stage with
  | reconciled =>
    cases o.reference.reconciliationResult with
    | none => rfl
    | some result => cases result <;> rfl
  | _ => rfl

theorem Occurrence.move_miss {o : Occurrence} {n : Nat} (h : o.move = ⟨n, .miss⟩) :
    o.notFound ∧ o.reference.attemptSequence = n := by
  simp only [Occurrence.move, moveOf, Move.mk.injEq] at h
  obtain ⟨rfl, hact⟩ := h
  refine ⟨?_, rfl⟩
  unfold actOf at hact
  cases hstage : o.reference.stage with
  | reconciled =>
    rw [hstage] at hact
    cases hresult : o.reference.reconciliationResult with
    | none =>
      rw [hresult] at hact
      cases hact
    | some result =>
      rw [hresult] at hact
      cases result with
      | notFound => exact ⟨hstage, hresult⟩
      | _ => cases hact
  | _ =>
    rw [hstage] at hact
    cases hact

theorem Occurrence.move_schedule {o : Occurrence} {n : Nat} {due : Option Str}
    (h : o.move = ⟨n, .schedule due⟩) :
    o.schedulesRetry ∧ o.reference.attemptSequence = n ∧ o.reference.retryAt = due := by
  simp only [Occurrence.move, moveOf, Move.mk.injEq] at h
  obtain ⟨rfl, hact⟩ := h
  unfold actOf at hact
  cases hstage : o.reference.stage with
  | retryScheduled =>
    rw [hstage] at hact
    exact ⟨hstage, rfl, Act.schedule.inj hact⟩
  | reconciled =>
    rw [hstage] at hact
    cases hresult : o.reference.reconciliationResult with
    | none =>
      rw [hresult] at hact
      cases hact
    | some result =>
      rw [hresult] at hact
      cases result <;> cases hact
  | _ =>
    rw [hstage] at hact
    cases hact

theorem occurrences_snoc {before : List (ReducerEvent sha)} {event : ReducerEvent sha} {o : Occurrence}
    (h : occurrence? id event = some o) :
    movesOf id (before ++ [event]) = movesOf id before ++ [o.move] := by
  rw [movesOf_append, movesOf, movesOf, occurrences, occurrences]
  simp [h]

theorem retries_of_moves {before : List Occurrence} {o : Occurrence}
    {front : List (Move (Option Str) (Option Str))} {k : Nat} {due : Option Str}
    (hmoves : before.map Occurrence.move = front ++ [⟨k, .miss⟩, ⟨k, .schedule due⟩])
    (hnumber : o.reference.attemptSequence = k + 1) (hready : ready due o.time) : Retries before o := by
  obtain ⟨first, rest, rfl, -, hrest⟩ := List.map_eq_append_iff.mp hmoves
  obtain ⟨missed, rest, rfl, hmissed, hrest⟩ := List.map_eq_cons_iff.mp hrest
  obtain ⟨scheduled, rest, rfl, hscheduled, hrest⟩ := List.map_eq_cons_iff.mp hrest
  obtain rfl := List.map_eq_nil_iff.mp hrest
  obtain ⟨hnot, hk⟩ := Occurrence.move_miss hmissed
  obtain ⟨hschedules, hk', hdue⟩ := Occurrence.move_schedule hscheduled
  refine ⟨first, missed, scheduled, rfl, hnot, hschedules, ?_, ?_, ?_⟩
  · rw [hk, hnumber]
  · rw [hk', hnumber]
  · rw [hdue]
    exact hready

theorem retried_of_tracked {before : List (ReducerEvent sha)} {event : ReducerEvent sha}
    {o : Occurrence} {c : Course (Option Str)} (hrun : Run ready (movesOf id (before ++ [event])) c)
    (ho : occurrence? id event = some o) (hstarts : o.starts) :
    o.reference.attemptSequence = 1 ∧ occurrences id before = [] ∨ Retries (occurrences id before) o := by
  have hmove : o.move = ⟨o.reference.attemptSequence, .start o.time⟩ := by
    rw [Occurrence.move, moveOf, actOf, hstarts]
  rw [occurrences_snoc ho, hmove] at hrun
  rcases hrun.start_after with ⟨hone, hnil⟩ | ⟨front, k, due, hk, hready, hbefore⟩
  · exact .inl ⟨hone, List.map_eq_nil_iff.mp hnil⟩
  · exact .inr (retries_of_moves hbefore hk hready)

theorem occurrence?_eq_some {event : ReducerEvent sha} {o : Occurrence}
    (h : occurrence? id event = some o) :
    providerFor id event = some o.reference ∧ o.time = event.sourceEvent.occurredAt := by
  simp only [occurrence?, Option.map_eq_some_iff] at h
  obtain ⟨r, hr, rfl⟩ := h
  exact ⟨hr, rfl⟩

theorem waiting_at_start {event : ReducerEvent sha} {o : Occurrence} {o' : Option (EffectEntry sha)}
    (h : EntryStep id event (some x) o') (hx : x.Sound) (ho : occurrence? id event = some o)
    (hstarts : o.starts) : ∀ a ∈ x.providerAttempts, a.status = .retryWait := by
  have hr := (occurrence?_eq_some ho).1
  cases h with
  | provided hr' happly =>
    obtain rfl := Option.some.inj (hr.symm.trans hr')
    exact (applyProvider_start hx hstarts happly).2
  | same hnone => cases hnone.symm.trans hr
  | marked hnone => cases hnone.symm.trans hr
  | delivered hnone => cases hnone.symm.trans hr

theorem closed_silent {after : List (ReducerEvent sha)} {q₀ : EffectQueue sha}
    (h : accumulate transition q₀ after = .ok q) (hq₀ : q₀.effects.get? id = some x) (hx : x.Sound)
    (hclosed : x.status.closed = true) : ∀ o ∈ occurrences id after, ¬o.starts := by
  induction after generalizing q₀ x with
  | nil => exact List.forall_mem_nil _
  | cons event after ih =>
    simp only [accumulate, bind_eq_ok] at h
    obtain ⟨q₁, hstep, hrest⟩ := h
    have hentry := transition_entry id hstep
    rw [hq₀] at hentry
    obtain ⟨hsilent, x', hx', hclosed'⟩ := hentry.closed hx hclosed
    have hsound := hentry.sound (by rintro _ ⟨⟩; exact hx) x' hx'
    intro o ho
    rcases List.mem_filterMap.mp ho with ⟨other, hmem, hother⟩
    rcases List.mem_cons.mp hmem with rfl | hmem
    · exact hsilent _ (occurrence?_eq_some hother).1
    · exact ih hrest hx' hsound hclosed' o (List.mem_filterMap.mpr ⟨other, hmem, hother⟩)

theorem starts_eq (h : foldEffects events = .ok q) :
    (occurrences id events).filterMap Occurrence.startNumber =
      List.range' 1 (courseOf (q.effects.get? id)).number := by
  have hnumbered := (foldEffects_tracked id h).course.numbered
  rw [movesOf, List.filterMap_map] at hnumbered
  rw [← hnumbered]
  congr 1
  funext o
  exact (Occurrence.startNumber_move o).symm

theorem successes_le (h : foldEffects events = .ok q) :
    (occurrences id events).countP Occurrence.succeeds ≤ 1 := by
  have hsuccesses := (foldEffects_tracked id h).course.successes
  rw [movesOf, List.countP_map] at hsuccesses
  have hcount : (occurrences id events).countP Occurrence.succeeds =
      (courseOf (q.effects.get? id)).phase.successes := by
    rw [← hsuccesses]
    congr 1
    funext o
    exact (Occurrence.succeeds_move o).symm
  rw [hcount]
  cases (courseOf (q.effects.get? id)).phase <;> simp [Phase.successes]

theorem EffectEntry.Sound.settled (hx : x.Sound) :
    x.providerAttempts.countP (fun a => decide (a.status = .succeeded)) ≤ 1 := by
  rcases List.eq_nil_or_concat x.providerAttempts with hnil | ⟨front, a, hattempts⟩
  · rw [hnil]
    exact Nat.zero_le 1
  rw [List.concat_eq_append] at hattempts
  have hearlier := (hx.split hattempts).2.2.1
  have hzero : front.countP (fun a => decide (a.status = .succeeded)) = 0 := by
    rw [List.countP_eq_zero]
    intro b hb
    rw [hearlier b hb]
    decide
  rw [hattempts, List.countP_append, hzero, Nat.zero_add]
  exact List.countP_le_length

theorem closed_of_mem {status : EffectStatus}
    (h : status ∈ [EffectStatus.succeeded, .compensated, .deadLetter]) : status.closed = true := by
  simp only [List.mem_cons, List.not_mem_nil, or_false] at h
  rcases h with rfl | rfl | rfl <;> rfl

theorem provider_effect_safety (id : Str) (events : List (ReducerEvent sha)) (q : EffectQueue sha)
    (h : foldEffects events = .ok q) : ProviderSafe id events q := by
  have htracked := foldEffects_tracked id h
  refine ⟨?_, ?_, ?_, ?_, successes_le h, fun x hx => (htracked.sound x hx).settled, ?_⟩
  · rw [starts_eq h]
    exact List.pairwise_lt_range'
  · intro x hx
    rw [starts_eq h, hx, (htracked.sound x hx).numbered]
    rfl
  · rintro before event after o rfl ho hstarts
    rw [List.append_cons] at h
    obtain ⟨q₁, hq₁⟩ := foldEffects_split h
    exact retried_of_tracked (foldEffects_tracked id hq₁).course ho hstarts
  · rintro before event after o q₀ x rfl ho hstarts hq₀ hx
    rw [List.append_cons] at h
    obtain ⟨q₁, hq₁⟩ := foldEffects_split h
    obtain ⟨q₀', hq₀', hstep⟩ := foldEffects_snoc.mp hq₁
    obtain rfl := Except.ok.inj (hq₀'.symm.trans hq₀)
    have hentry := transition_entry id hstep
    rw [hx] at hentry
    exact waiting_at_start hentry ((foldEffects_tracked id hq₀).sound x hx) ho hstarts
  · rintro before after q₀ x rfl hq₀ hx hstatus
    rw [foldEffects, accumulate_append, bind_eq_ok] at h
    obtain ⟨q₀', hq₀', hrest⟩ := h
    obtain rfl := Except.ok.inj (hq₀'.symm.trans hq₀)
    exact closed_silent hrest hx ((foldEffects_tracked id hq₀).sound x hx) (closed_of_mem hstatus)

end Safety

section Sample

def sampleContract : EffectContract where
  effectId := lit "effect_1"
  effectType := lit "notification"
  idempotencyKey := lit "key_1"
  requestedByEventId := lit "evt_0"
  inputArtifactSha256 := sampleDigest 'a'
  authorizationEventId := sampleAccess.authorizationDecisionId
  compensationSupported := false
  valid := by decide +kernel

def sampleAttempt (n : Nat) (stage : ProviderEffectStage) : ProviderEffectTransitionRef where
  effectId := lit "effect_1"
  attemptId := providerEffectAttemptId sampleSha (lit "effect_1") n
  attemptSequence := n
  providerInvocationId := providerEffectInvocationId sampleSha (lit "effect_1")
    (providerEffectAttemptId sampleSha (lit "effect_1") n) (lit "provider_1") (lit "model_1")
    (lit "1") (lit "endpoint_1") (sampleDigest 'a')
  stage := stage
  providerId := lit "provider_1"
  modelId := lit "model_1"
  modelVersion := lit "1"
  endpointId := lit "endpoint_1"
  requestSha256 := sampleDigest 'a'

def missedAttempt : ProviderEffectTransitionRef :=
  { sampleAttempt 1 .reconciled with
    reconciliationSequence := some 1
    reconciliationId := some (providerEffectReconciliationId sampleSha
      (sampleAttempt 1 .reconciled).providerInvocationId 1 .notFound none none none)
    reconciliationResult := some .notFound }

def effectEnvelope (eventType : Str) (suffix : Option Str) (n : Nat) (payload : Json) :
    EventEnvelope :=
  { sampleEnvelope (effectEventId sampleSha eventType (lit "effect_1") suffix) n n 'a' none .internal with
    eventType := eventType
    streamId := effectStreamId sampleSha (lit "effect_1")
    streamType := streamType
    causationId := some (lit "evt_0")
    payloadSchema := eventType ++ lit ".v1"
    retentionPolicyId := GateEvents.retentionPolicyId
    payload := payload }

def requestedSample : CanonicalEvent sampleSha :=
  (effectEnvelope effectRequestedEvent none 1
    (EffectRequestedRef.toDict (⟨sampleContract, none, none⟩ : EffectRequestedRef sampleSha))).sign sampleSha
    (by decide) (by decide) (by decide)

def transitionEnvelope (parent : CanonicalEvent sampleSha) (n : Nat) (r : ProviderEffectTransitionRef)
    (occurredAt : Str) : EventEnvelope :=
  { effectEnvelope effectProviderTransitionEvent (some (r.transitionId sampleSha)) n
      (r.toDict sampleSha) with
    causationId := some parent.eventId
    previousStreamEventSha256 := some parent.eventSha256
    occurredAt := some occurredAt }

def startedSample : CanonicalEvent sampleSha :=
  (transitionEnvelope requestedSample 2 (sampleAttempt 1 .attemptStarted)
    (lit "2024-05-01T12:00:00Z")).sign sampleSha (by decide) (by decide) (by decide)

def unknownSample : CanonicalEvent sampleSha :=
  (transitionEnvelope startedSample 3
    { sampleAttempt 1 .resultUnknown with errorCode := some (lit "provider_timeout") }
    (lit "2024-05-01T12:01:00Z")).sign sampleSha (by decide) (by decide) (by decide)

def missedSample : CanonicalEvent sampleSha :=
  (transitionEnvelope unknownSample 4 missedAttempt
    (lit "2024-05-01T12:02:00Z")).sign sampleSha (by decide) (by decide) (by decide)

def scheduledSample : CanonicalEvent sampleSha :=
  (transitionEnvelope missedSample 5
    { sampleAttempt 1 .retryScheduled with retryAt := some (lit "2024-05-01T12:05:00Z") }
    (lit "2024-05-01T12:03:00Z")).sign sampleSha (by decide) (by decide) (by decide)

def retriedSample : CanonicalEvent sampleSha :=
  (transitionEnvelope scheduledSample 6 (sampleAttempt 2 .attemptStarted)
    (lit "2024-05-01T12:05:00Z")).sign sampleSha (by decide) (by decide) (by decide)

def sampleRun : List (ReducerEvent sampleSha) :=
  [requestedSample, startedSample, unknownSample, missedSample, scheduledSample, retriedSample].map
    GateEvents.typedView

set_option maxRecDepth 100000 in
theorem sampleRun_folds : (foldEffects sampleRun).toOption.isSome = true := by
  decide +kernel

end Sample

theorem provider_effect_safety_retried :
    ∃ q, foldEffects sampleRun = .ok q ∧ ProviderSafe (lit "effect_1") sampleRun q := by
  cases hfold : foldEffects sampleRun with
  | error fault =>
    have hfolds := sampleRun_folds
    rw [hfold] at hfolds
    cases hfolds
  | ok q => exact ⟨q, rfl, provider_effect_safety (lit "effect_1") sampleRun q hfold⟩

end Effects

end TraceBackedMemory
