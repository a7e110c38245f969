import TraceBackedMemory.Outbox.Steps
import TraceBackedMemory.Ledger.Interleaving

namespace TraceBackedMemory

open Text Raising

namespace Outbox

variable {sha : Sha256}

section Reachability

inductive DeliveryAction where
  | claim (workerId : Str) (leaseSeconds : Int)
  | acknowledge (workerId : Str) (responseSha256 : Option Str)
  | fail (workerId error : Str) (retryDelaySeconds attempts : Int)

def DeliveryAction.perform (d : CompletionOutboxDelivery sha) (at' : Str) :
    DeliveryAction → Except GateError (CompletionOutboxDelivery sha)
  | claim workerId seconds => Outbox.claim d workerId at' seconds
  | acknowledge workerId response => Outbox.acknowledge d workerId at' response
  | fail workerId error delay attempts => Outbox.fail d workerId at' error delay attempts

inductive Reachable : CompletionOutboxDelivery sha → Prop
  | initial {eventId occurredAt : Str} {d : CompletionOutboxDelivery sha}
      (h : buildInitial sha eventId occurredAt = .ok d) : Reachable d
  | step {d d' : CompletionOutboxDelivery sha} {at' : Str} {action : DeliveryAction}
      (h : Reachable d) (hstep : action.perform d at' = .ok d') : Reachable d'

structure Scheduled (r : DeliveryRecord) : Prop where
  ready : r.status.terminal = false → micros r.updatedAt ≤ ready r
  attempts : r.status.terminal = false → r.status ≠ .leased → r.attemptCount < maxAttempts

theorem scheduled_initial {eventId occurredAt : Str} {d : CompletionOutboxDelivery sha}
    (h : buildInitial sha eventId occurredAt = .ok d) : Scheduled d.toDeliveryRecord := by
  simp only [buildInitial, buildDelivery, bind_eq_ok, construct_eq_ok] at h
  obtain ⟨r, hr, _, -, hrecord, -⟩ := h
  simp only [DeliveryRecord.canonical, bind_eq_ok, pure_eq_ok, optionalCanonical] at hr
  obtain ⟨u, hu, a, ⟨a', ha', rfl⟩, l, -, x, -, rfl⟩ := hr
  obtain rfl : u = a' := Except.ok.inj (hu.symm.trans ha')
  rw [hrecord]
  refine ⟨?_, ?_⟩
  · intro _
    exact le_refl _
  · intro _ _
    show 0 < maxAttempts
    decide

theorem leasedRecord_ready {r : DeliveryRecord} {workerId : Str} {now : Nat} {seconds : Int}
    (hrange : now + seconds.toNat * 1000000 ≤ maxInstant) :
    ready (leasedRecord r workerId now seconds) = now + seconds.toNat * 1000000 := by
  simp only [ready, leasedRecord, Option.getD_some]
  exact micros_isoformat hrange

theorem scheduled_step {d d' : CompletionOutboxDelivery sha} {at' : Str} {action : DeliveryAction}
    (h : action.perform d at' = .ok d') : Scheduled d'.toDeliveryRecord := by
  cases action with
  | claim workerId seconds =>
    obtain ⟨now, -, hcaller, -, hrecord⟩ := claim_eq_ok.mp h
    rw [hrecord]
    refine ⟨?_, fun _ hne => absurd rfl hne⟩
    intro _
    rw [leasedRecord_ready hcaller.range]
    show micros (isoformat now) ≤ _
    rw [micros_isoformat hcaller.now_le]
    omega
  | acknowledge workerId response =>
    obtain ⟨now, -, -, -, -, hrecord⟩ := acknowledge_eq_ok.mp h
    rw [hrecord]
    exact ⟨fun hterm => Bool.noConfusion hterm, fun hterm => Bool.noConfusion hterm⟩
  | fail workerId error delay attempts =>
    obtain ⟨now, -, -, -, -, hbound, hrecord | ⟨hlt, hrecord⟩⟩ := fail_eq_ok h
    · rw [hrecord]
      exact ⟨fun hterm => Bool.noConfusion hterm, fun hterm => Bool.noConfusion hterm⟩
    · obtain ⟨-, hshape⟩ := d'.shape
      have hstatus : d'.status = .retryWait := by rw [hrecord]; rfl
      rw [StatusShape, hstatus] at hshape
      obtain ⟨-, ⟨text, htext, hafter⟩, -⟩ := hshape
      have hready : ready d'.toDeliveryRecord = micros text := by
        simp only [ready, hstatus, htext, Option.getD_some]
      refine ⟨fun _ => by omega, ?_⟩
      intro _ _
      have hcount : d'.attemptCount = d.attemptCount := by rw [hrecord]; rfl
      omega

theorem Reachable.scheduled {d : CompletionOutboxDelivery sha} (h : Reachable d) :
    Scheduled d.toDeliveryRecord := by
  cases h with
  | initial hinit => exact scheduled_initial hinit
  | step _ hstep => exact scheduled_step hstep

theorem exists_initial (sha : Sha256) {eventId : Str} {now : Nat}
    (hevent : contentId eventKind eventId = true) (hnow : now ≤ maxInstant) :
    ∃ d : CompletionOutboxDelivery sha, buildInitial sha eventId (isoformat now) = .ok d ∧
      d.status = .pending ∧ d.attemptCount = 0 ∧ d.updatedAt = isoformat now ∧
      d.availableAt = some (isoformat now) ∧ d.eventId = eventId := by
  have hcanonical := canonicalText_isoformat hnow
  obtain ⟨d, hd⟩ : ∃ d : CompletionOutboxDelivery sha, d.toDeliveryRecord =
      { eventId := eventId
        version := 1
        status := .pending
        attemptCount := 0
        updatedAt := isoformat now
        availableAt := some (isoformat now) } := by
    apply exists_delivery
    · refine ⟨hevent, le_refl 1, Nat.zero_le _, hcanonical, ?_, by simp, by simp, by simp, by simp, by simp⟩
      intro text htext
      cases htext
      exact hcanonical
    · exact ⟨rfl, rfl, by simp, rfl⟩
    · exact ⟨by simp, by simp⟩
  refine ⟨d, (buildDelivery_eq_ok ?_).mpr hd, by rw [hd], by rw [hd], by rw [hd], by rw [hd],
    by rw [hd]⟩
  apply canonical_of_times hcanonical
  · intro text htext
    cases htext
    exact hcanonical
  · simp
  · simp

end Reachability

section SingleOwnership

def HolderActs (d : CompletionOutboxDelivery sha) (workerId at' : Str) : Prop :=
  (∃ response d', acknowledge d workerId at' response = .ok d') ∨
    ∃ error delay attempts d', fail d workerId at' error delay attempts = .ok d'

def Claims (d : CompletionOutboxDelivery sha) (workerId at' : Str) : Prop :=
  ∃ seconds d', claim d workerId at' seconds = .ok d'

def SingleOwner (d : CompletionOutboxDelivery sha) (at' : Str) : Prop :=
  ∀ holder rival, holder ≠ rival → ¬(HolderActs d holder at' ∧ Claims d rival at')

def Contested (d : CompletionOutboxDelivery sha) (at' : Str) : Prop :=
  d.status = .leased ∧ d.leaseExpiresAt = some at' ∧ d.attemptCount < maxAttempts ∧
    micros at' + 1000000 ≤ maxInstant

theorem holds_of_holderActs {d : CompletionOutboxDelivery sha} {workerId at' : Str}
    (h : HolderActs d workerId at') :
    ∃ now ≤ maxInstant, at' = isoformat now ∧ Holds d.toDeliveryRecord workerId now := by
  rcases h with ⟨response, d', h⟩ | ⟨error, delay, attempts, d', h⟩
  · obtain ⟨now, hnow, hat, hholds, -⟩ := acknowledge_eq_ok.mp h
    exact ⟨now, hnow, hat, hholds⟩
  · obtain ⟨now, hnow, hat, hholds, -⟩ := fail_eq_ok h
    exact ⟨now, hnow, hat, hholds⟩

theorem caller_sample {workerId : Str} (hworker : boundedText 128 workerId = true)
    (hascii : ascii workerId = true) {now : Nat} (hrange : now + 1000000 ≤ maxInstant) :
    Caller workerId now 1 := by
  refine ⟨hworker, encodedBytes_of_ascii hascii, le_refl 1, by decide, ?_⟩
  show now + 1 * 1000000 ≤ maxInstant
  omega

theorem exists_other_worker (holder : Str) :
    ∃ rival, holder ≠ rival ∧ boundedText 128 rival = true ∧ ascii rival = true := by
  by_cases h : holder = lit "a"
  · exact ⟨lit "b", by rw [h]; decide, by decide, by decide⟩
  · exact ⟨lit "a", h, by decide, by decide⟩

theorem outbox_single_ownership (d : CompletionOutboxDelivery sha) (at' : Str) :
    SingleOwner d at' ↔ ¬Contested d at' := by
  constructor
  · rintro hsingle ⟨hleased, hlease, hattempts, hrange⟩
    obtain ⟨-, ⟨holder, hholder⟩, hlt, hle, heq⟩ := d.lease_shape hleased
    obtain rfl : at' = isoformat (ready d.toDeliveryRecord) := Option.some.inj (hlease.symm.trans heq)
    rw [micros_isoformat hle] at hrange
    obtain ⟨rival, hne, hbounded, hascii⟩ := exists_other_worker holder
    obtain ⟨acked, hacked, -⟩ := acknowledge_succeeds d hle ⟨hleased, hholder, hlt.le, le_refl _⟩
    obtain ⟨claimed, hclaimed⟩ := (claim_succeeds_iff hle).mpr
      ⟨caller_sample hbounded hascii hrange,
        (⟨by rw [hleased]; rfl, le_refl _, hlt.le, hattempts⟩ : Claimable d.toDeliveryRecord _)⟩
    exact hsingle holder rival hne ⟨.inl ⟨none, acked, hacked⟩, 1, claimed, hclaimed⟩
  · rintro hfree holder rival - ⟨hacts, seconds, d', hclaim⟩
    obtain ⟨now, hnow, rfl, hholds⟩ := holds_of_holderActs hacts
    obtain ⟨i, hi, hcaller, hclaimable, -⟩ := claim_eq_ok.mp hclaim
    obtain rfl : now = i := (isoformat_inj hnow hcaller.now_le).mp hi
    obtain ⟨-, -, -, hle, heq⟩ := d.lease_shape hholds.leased
    have hinstant : ready d.toDeliveryRecord = now := le_antisymm hclaimable.ready hholds.unexpired
    have hrange := hcaller.range
    have hpositive := hcaller.positive
    refine hfree ⟨hholds.leased, by rw [heq, hinstant], hclaimable.attempts, ?_⟩
    rw [micros_isoformat hnow]
    omega

def sampleEventId : Str := eventKind ++ List.replicate 64 (cp '0')

def sampleStart : Nat := 63902822400000000

theorem minutes_succ (start k : Nat) :
    start + k * 60000000 + 60 * 1000000 = start + (k + 1) * 60000000 := by
  omega

theorem minutes_le {start k n last : Nat} (h : start + n * 60000000 ≤ last) (hk : k ≤ n) :
    start + k * 60000000 ≤ last :=
  (Nat.add_le_add_left (Nat.mul_le_mul_right _ hk) start).trans h

theorem crash_caller {k : Nat} (hk : k ≤ maxAttempts) :
    Caller (lit "worker-1") (sampleStart + k * 60000000) 60 := by
  have hbound : sampleStart + (maxAttempts + 1) * 60000000 ≤ maxInstant := by decide
  refine ⟨by decide, by decide, by decide, by decide, ?_⟩
  show sampleStart + k * 60000000 + 60 * 1000000 ≤ maxInstant
  rw [minutes_succ]
  exact minutes_le hbound (Nat.succ_le_succ hk)

theorem exists_crashed (sha : Sha256) (n : Nat) (hn : n < maxAttempts) :
    ∃ d : CompletionOutboxDelivery sha, Reachable d ∧ d.status = .leased ∧ d.attemptCount = n + 1 ∧
      d.workerId = some (lit "worker-1") ∧ d.eventId = sampleEventId ∧
      ready d.toDeliveryRecord = sampleStart + (n + 1) * 60000000 := by
  have again (d : CompletionOutboxDelivery sha) (k : Nat) (hk : k < maxAttempts) (hd : Reachable d)
      (hlive : d.status.terminal = false) (hattempts : d.attemptCount = k)
      (hevent : d.eventId = sampleEventId)
      (hready : ready d.toDeliveryRecord = sampleStart + k * 60000000) :
      ∃ d' : CompletionOutboxDelivery sha, Reachable d' ∧ d'.status = .leased ∧
        d'.attemptCount = k + 1 ∧ d'.workerId = some (lit "worker-1") ∧ d'.eventId = sampleEventId ∧
        ready d'.toDeliveryRecord = sampleStart + (k + 1) * 60000000 := by
    have hc := crash_caller hk.le
    have hclaim : Claimable d.toDeliveryRecord (sampleStart + k * 60000000) :=
      ⟨hlive, hready.le, hready ▸ hd.scheduled.ready hlive, by omega⟩
    obtain ⟨d', hd'⟩ := exists_leased d hc hclaim.attempts
    have hperform : (DeliveryAction.claim (lit "worker-1") 60).perform d
        (isoformat (sampleStart + k * 60000000)) = .ok d' :=
      claim_eq_ok.mpr ⟨_, rfl, hc, hclaim, hd'⟩
    refine ⟨d', .step hd hperform, by rw [hd']; rfl, ?_, by rw [hd']; rfl, ?_, ?_⟩
    · rw [hd', ← hattempts]
      rfl
    · rw [hd', ← hevent]
      rfl
    · rw [hd', leasedRecord_ready hc.range]
      exact minutes_succ sampleStart k
  induction n with
  | zero =>
    have hle : sampleStart ≤ maxInstant := by decide
    obtain ⟨d, hd, hstatus, hcount, -, havailable, hevent⟩ :=
      exists_initial sha (show contentId eventKind sampleEventId = true by decide) hle
    refine again d 0 hn (.initial hd) (by rw [hstatus]; rfl) hcount hevent ?_
    simp only [ready, hstatus, havailable, Option.getD_some]
    rw [micros_isoformat hle]
    rfl
  | succ n ih =>
    obtain ⟨d, hd, hstatus, hcount, -, hevent, hready⟩ := ih (by omega)
    exact again d (n + 1) hn hd (by rw [hstatus]; rfl) hcount hevent hready

theorem outbox_contested_at_expiry :
    ∃ d : CompletionOutboxDelivery sampleSha, Reachable d ∧
      (∃ d', acknowledge d (lit "worker-1") (lit "2026-01-01T00:01:00Z") none = .ok d') ∧
      (∃ d', claim d (lit "worker-2") (lit "2026-01-01T00:01:00Z") 60 = .ok d') ∧
      ¬SingleOwner d (lit "2026-01-01T00:01:00Z") := by
  have htext : isoformat (sampleStart + 60000000) = lit "2026-01-01T00:01:00Z" := by decide
  have hle : sampleStart + 60000000 ≤ maxInstant := by decide
  obtain ⟨d, hd, hleased, hcount, hworker, -, hready⟩ := exists_crashed sampleSha 0 (by decide)
  have hupdated := (d.lease_shape hleased).2.2.1
  have hready : ready d.toDeliveryRecord = sampleStart + 60000000 := by omega
  obtain ⟨acked, hacked, -⟩ := acknowledge_succeeds d hle
    ⟨hleased, hworker, by omega, hready.ge⟩
  obtain ⟨claimed, hclaimed⟩ := (claim_succeeds_iff hle).mpr
    ⟨(⟨by decide, by decide, by decide, by decide, by decide⟩ : Caller (lit "worker-2") _ 60),
      (⟨by rw [hleased]; rfl, hready.le, by omega, by rw [hcount]; decide⟩ :
        Claimable d.toDeliveryRecord _)⟩
  rw [htext] at hacked hclaimed
  refine ⟨d, hd, ⟨acked, hacked⟩, ⟨claimed, hclaimed⟩, ?_⟩
  intro hsingle
  exact hsingle (lit "worker-1") (lit "worker-2") (by decide)
    ⟨.inl ⟨none, acked, hacked⟩, 60, claimed, hclaimed⟩

end SingleOwnership

section DeadEnds

inductive Finishes : Nat → CompletionOutboxDelivery sha → Prop
  | done {now : Nat} {d : CompletionOutboxDelivery sha} (h : d.status.terminal = true) :
      Finishes now d
  | step {now later : Nat} {d d' : CompletionOutboxDelivery sha} {action : DeliveryAction}
      (hle : now ≤ later) (hlater : later ≤ maxInstant)
      (h : action.perform d (isoformat later) = .ok d') (rest : Finishes later d') : Finishes now d

def NoDeadEnd (d : CompletionOutboxDelivery sha) : Prop :=
  ∀ now, now + 1000000 ≤ maxInstant →
    (d.status.terminal = false → ∃ later action d', now ≤ later ∧ later ≤ maxInstant ∧
      DeliveryAction.perform d (isoformat later) action = .ok d') ∧
    Finishes now d

def Recoverable (r : DeliveryRecord) : Prop :=
  match r.status with
  | .pending | .retryWait => ready r + 1000000 ≤ maxInstant
  | .leased => r.attemptCount < maxAttempts ∨ maxInstant ≤ ready r + 1000000
  | .delivered | .deadLetter => True

theorem claims_then_finishes {d : CompletionOutboxDelivery sha} (h : Reachable d)
    (hlive : d.status.terminal = false) (hattempts : d.attemptCount < maxAttempts)
    (hready : ready d.toDeliveryRecord + 1000000 ≤ maxInstant) {now : Nat}
    (hnow : now + 1000000 ≤ maxInstant) :
    ∃ later action d', now ≤ later ∧ later ≤ maxInstant ∧
      DeliveryAction.perform d (isoformat later) action = .ok d' ∧ Finishes later d' := by
  obtain ⟨later, hnowLater, hreadyLater, hlater⟩ : ∃ later, now ≤ later ∧
      ready d.toDeliveryRecord ≤ later ∧ later + 1000000 ≤ maxInstant :=
    ⟨max now (ready d.toDeliveryRecord), le_max_left _ _, le_max_right _ _, by omega⟩
  have hupdated := h.scheduled.ready hlive
  have hcaller : Caller (lit "worker-1") later 1 := caller_sample (by decide) (by decide) hlater
  have hclaim : Claimable d.toDeliveryRecord later :=
    ⟨hlive, hreadyLater, by omega, hattempts⟩
  obtain ⟨d', hd'⟩ := exists_leased d hcaller hclaim.attempts
  have hperform : (DeliveryAction.claim (lit "worker-1") 1).perform d (isoformat later) = .ok d' :=
    claim_eq_ok.mpr ⟨later, rfl, hcaller, hclaim, hd'⟩
  have hholds : Holds d'.toDeliveryRecord (lit "worker-1") later := by
    rw [hd']
    refine ⟨rfl, rfl, ?_, ?_⟩
    · exact (micros_isoformat hcaller.now_le).le
    · rw [leasedRecord_ready hcaller.range]
      omega
  obtain ⟨acked, hacked, hdelivered⟩ := acknowledge_succeeds d' hcaller.now_le hholds
  have hack : (DeliveryAction.acknowledge (lit "worker-1") none).perform d' (isoformat later) =
      .ok acked := hacked
  exact ⟨later, _, d', hnowLater, hcaller.now_le, hperform,
    .step (le_refl later) hcaller.now_le hack (.done (by rw [hdelivered]; rfl))⟩

theorem leased_finishes {d : CompletionOutboxDelivery sha} (hleased : d.status = .leased) {now : Nat}
    (hnow : now ≤ ready d.toDeliveryRecord) :
    ∃ later action d', now ≤ later ∧ later ≤ maxInstant ∧
      DeliveryAction.perform d (isoformat later) action = .ok d' ∧ Finishes later d' := by
  obtain ⟨-, ⟨holder, hholder⟩, hlt, hle, -⟩ := d.lease_shape hleased
  obtain ⟨acked, hacked, hdelivered⟩ :=
    acknowledge_succeeds d hle ⟨hleased, hholder, hlt.le, le_refl _⟩
  exact ⟨_, .acknowledge holder none, acked, hnow, hle, hacked, .done (by rw [hdelivered]; rfl)⟩

theorem perform_window {d d' : CompletionOutboxDelivery sha} {later : Nat} (hlater : later ≤ maxInstant)
    {action : DeliveryAction} (h : action.perform d (isoformat later) = .ok d') :
    (later + 1000000 ≤ maxInstant ∧ ready d.toDeliveryRecord ≤ later ∧ d.attemptCount < maxAttempts) ∨
      (d.status = .leased ∧ later ≤ ready d.toDeliveryRecord) := by
  cases action with
  | claim workerId seconds =>
    obtain ⟨hcaller, hclaim⟩ := (claim_succeeds_iff hlater).mp ⟨d', h⟩
    have hrange := hcaller.range
    have hpositive := hcaller.positive
    exact .inl ⟨by omega, hclaim.ready, hclaim.attempts⟩
  | acknowledge workerId response =>
    obtain ⟨now, hnow, heq, hholds⟩ := holds_of_holderActs (.inl ⟨response, d', h⟩)
    obtain rfl : later = now := (isoformat_inj hlater hnow).mp heq
    exact .inr ⟨hholds.leased, hholds.unexpired⟩
  | fail workerId error delay attempts =>
    obtain ⟨now, hnow, heq, hholds⟩ :=
      holds_of_holderActs (.inr ⟨error, delay, attempts, d', h⟩)
    obtain rfl : later = now := (isoformat_inj hlater hnow).mp heq
    exact .inr ⟨hholds.leased, hholds.unexpired⟩

theorem outbox_no_dead_end (d : CompletionOutboxDelivery sha) (h : Reachable d) :
    NoDeadEnd d ↔ Recoverable d.toDeliveryRecord := by
  have hscheduled := h.scheduled
  have conclude {now : Nat} (hstep : ∃ later action d', now ≤ later ∧ later ≤ maxInstant ∧
      DeliveryAction.perform d (isoformat later) action = .ok d' ∧ Finishes later d') :
      (d.status.terminal = false → ∃ later action d', now ≤ later ∧ later ≤ maxInstant ∧
        DeliveryAction.perform d (isoformat later) action = .ok d') ∧ Finishes now d := by
    obtain ⟨later, action, d', hle, hlater, hperform, hrest⟩ := hstep
    exact ⟨fun _ => ⟨later, action, d', hle, hlater, hperform⟩, .step hle hlater hperform hrest⟩
  have waiting (hlive : d.status.terminal = false) (hne : d.status ≠ .leased) :
      NoDeadEnd d ↔ ready d.toDeliveryRecord + 1000000 ≤ maxInstant := by
    constructor
    · intro hends
      have hmax : (1000000 : Nat) ≤ maxInstant := by decide
      obtain ⟨later, action, d', hle, hlater, hperform⟩ :=
        (hends (maxInstant - 1000000) (by omega)).1 hlive
      rcases perform_window hlater hperform with ⟨hrange, hready, -⟩ | ⟨hleased, -⟩
      · omega
      · exact absurd hleased hne
    · intro hready now hnow
      exact conclude (claims_then_finishes h hlive (hscheduled.attempts hlive hne) hready hnow)
  cases hstatus : d.status with
  | pending =>
    rw [Recoverable, hstatus]
    exact waiting (by rw [hstatus]; rfl) (by rw [hstatus]; exact DeliveryStatus.noConfusion)
  | retryWait =>
    rw [Recoverable, hstatus]
    exact waiting (by rw [hstatus]; rfl) (by rw [hstatus]; exact DeliveryStatus.noConfusion)
  | leased =>
    have hlive : d.status.terminal = false := by rw [hstatus]; rfl
    rw [Recoverable, hstatus]
    constructor
    · intro hends
      by_contra hstuck
      obtain ⟨hexhausted, hroom⟩ := not_or.mp hstuck
      obtain ⟨later, action, d', hle, hlater, hperform⟩ :=
        (hends (ready d.toDeliveryRecord + 1) (by omega)).1 hlive
      rcases perform_window hlater hperform with ⟨-, -, hattempts⟩ | ⟨-, hunexpired⟩
      · exact hexhausted hattempts
      · omega
    · intro hrecoverable now hnow
      by_cases hready : now ≤ ready d.toDeliveryRecord
      · exact conclude (leased_finishes hstatus hready)
      · rcases hrecoverable with hattempts | hroom
        · exact conclude (claims_then_finishes h hlive hattempts (by omega) hnow)
        · omega
  | delivered | deadLetter =>
    rw [Recoverable, hstatus]
    refine iff_of_true ?_ trivial
    intro now _
    refine ⟨?_, .done (by rw [hstatus]; rfl)⟩
    intro hlive
    rw [hstatus] at hlive
    cases hlive

theorem outbox_crashed_delivery_recovers :
    ∃ d : CompletionOutboxDelivery sampleSha, d.status = .leased ∧ NoDeadEnd d := by
  obtain ⟨d, hd, hleased, hcount, -⟩ := exists_crashed sampleSha 0 (by decide)
  refine ⟨d, hleased, (outbox_no_dead_end d hd).mpr ?_⟩
  rw [Recoverable, hleased]
  exact .inl (by rw [hcount]; decide)

theorem outbox_exhausted_delivery_stuck :
    ∃ d : CompletionOutboxDelivery sampleSha, Reachable d ∧ d.status.terminal = false ∧
      (∀ now, ready d.toDeliveryRecord < now → now ≤ maxInstant → ∀ action,
        ∃ e, DeliveryAction.perform d (isoformat now) action = .error e) ∧
      ¬NoDeadEnd d := by
  obtain ⟨d, hd, hleased, hcount, -, -, hready⟩ := exists_crashed sampleSha 999 (by decide)
  have hlive : d.status.terminal = false := by rw [hleased]; rfl
  have hrefused : ∀ now, ready d.toDeliveryRecord < now → now ≤ maxInstant → ∀ action,
      ∃ e, DeliveryAction.perform d (isoformat now) action = .error e := by
    intro now hlt hnow action
    cases hperform : DeliveryAction.perform d (isoformat now) action with
    | error e => exact ⟨e, rfl⟩
    | ok d' =>
      rcases perform_window hnow hperform with ⟨-, -, hattempts⟩ | ⟨-, hunexpired⟩
      · rw [hcount] at hattempts
        exact absurd hattempts (by decide)
      · omega
  refine ⟨d, hd, hlive, hrefused, ?_⟩
  intro hends
  have hroom : sampleStart + 60000000000 + 1000001 ≤ maxInstant := by decide
  obtain ⟨later, action, d', hle, hlater, hperform⟩ :=
    (hends (ready d.toDeliveryRecord + 1) (by omega)).1 hlive
  obtain ⟨e, he⟩ := hrefused later (by omega) hlater action
  rw [he] at hperform
  cases hperform

end DeadEnds

end Outbox

end TraceBackedMemory
