import TraceBackedMemory.Gate.DueListing

namespace TraceBackedMemory

open Text Raising

section Records

namespace GateSessionRecord

variable {r : GateSessionRecord}

structure Times (r : GateSessionRecord) (c u e : Int) : Prop where
  created : instant? r.createdAt = some c
  updated : instant? r.updatedAt = some u
  expires : instant? r.expiresAt = some e
  created_le : c ≤ u
  created_lt : c < e
  live : r.status.terminal = false → u ≤ e
  overdue : r.status = .expired → e ≤ u
  lease : ∀ text, r.leaseExpiresAt = some text → ∃ l, instant? text = some l ∧ u < l ∧ l ≤ e

theorem check_iff : r.check = .ok () ↔
    r.checkIdentity = .ok () ∧ r.checkTimes = .ok () ∧ r.checkEvidence = .ok () ∧
      r.validateRecordShape = .ok () := by
  simp only [check, bind_eq_ok, exists_unit]

theorem checkLease_iff {u e : Int} : r.checkLease u e = .ok () ↔
    ∀ text, r.leaseExpiresAt = some text → ∃ l, instant? text = some l ∧ u < l ∧ l ≤ e := by
  unfold checkLease
  cases r.leaseExpiresAt with
  | none => simp
  | some value =>
    simp only [bind_eq_ok, sessionTimestamp, demand_eq_ok, raiseIf_eq_ok, not_or, not_le, not_lt,
      Option.some.injEq, forall_eq']

theorem checkTimes_iff : r.checkTimes = .ok () ↔ ∃ c u e, Times r c u e := by
  simp only [checkTimes, bind_eq_ok, exists_unit, sessionTimestamp, demand_eq_ok, raiseIf_eq_ok,
    not_and, not_lt, not_le, Bool.not_eq_false, checkLease_iff]
  constructor
  · rintro ⟨c, hc, u, hu, e, he, hcu, hce, hlive, hover, hlease⟩
    refine ⟨c, u, e, hc, hu, he, hcu, hce, ?_, hover, hlease⟩
    intro hterminal
    by_contra hlt
    rw [hlive (by omega)] at hterminal
    cases hterminal
  · rintro ⟨c, u, e, h⟩
    refine ⟨c, h.created, u, h.updated, e, h.expires, h.created_le, h.created_lt, ?_, h.overdue,
      h.lease⟩
    intro hlt
    by_contra hterminal
    have hle := h.live (by simpa using hterminal)
    omega

end GateSessionRecord

theorem GateSession.times (s : GateSession) : ∃ c u e, s.Times c u e :=
  GateSessionRecord.checkTimes_iff.mp (GateSessionRecord.check_iff.mp s.valid).2.1

end Records

section Transitions

namespace GateSession

variable {s : GateSession}

theorem checkIdentity_advanced (s : GateSession) (target : GateSessionStatus) (now : Str)
    (f : TransitionFields) : (s.advanced target now f).checkIdentity = .ok () := by
  have h := (GateSessionRecord.check_iff.mp s.valid).1
  simp only [GateSessionRecord.checkIdentity, bind_eq_ok, exists_unit, raiseIf_eq_ok] at h ⊢
  obtain ⟨hids, hfingerprint, hkey, -⟩ := h
  exact ⟨hids, hfingerprint, hkey, Nat.not_lt.mpr (Nat.le_add_left 1 s.version)⟩

theorem checkTimes_advanced {target : GateSessionStatus} {now : Str} {f : TransitionFields}
    (htimes : s.checkTransitionTimes target now = .ok ())
    (hlease : target.terminal = true ∨ f.leaseExpiresAt = none ∧
      ∀ text, s.leaseExpiresAt = some text → ∀ l n, instant? text = some l →
        instant? now = some n → n < l) :
    (s.advanced target now f).checkTimes = .ok () := by
  obtain ⟨c, u, e, h⟩ := s.times
  obtain ⟨p, n, e', hp, hn, he', hlt, hlive, hover⟩ := checkTransitionTimes_eq_ok.mp htimes
  obtain rfl : u = p := Option.some.inj (h.updated.symm.trans hp)
  obtain rfl : e = e' := Option.some.inj (h.expires.symm.trans he')
  have hcu := h.created_le
  refine GateSessionRecord.checkTimes_iff.mpr ⟨c, n, e, h.created, hn, h.expires, by omega,
    h.created_lt, hlive, hover, ?_⟩
  intro text htext
  rcases hlease with hterminal | ⟨hnone, hkept⟩
  · simp only [advanced, hterminal, if_true] at htext
    cases htext
  · simp only [advanced, hnone, Option.none_or] at htext
    split at htext
    · cases htext
    · obtain ⟨l, hl, -, hle⟩ := h.lease text htext
      exact ⟨l, hl, hkept text htext l n hl hn, hle⟩

theorem exists_transition {target : GateSessionStatus} {now : Str} {f : TransitionFields}
    (hedge : target ∈ s.status.allowedTransitions)
    (hfields : ∀ name, f.has name = true ↔ name ∈ allowedFields target)
    (htimes : s.checkTransitionTimes target now = .ok ())
    (hlease : target.terminal = true ∨ f.leaseExpiresAt = none ∧
      ∀ text, s.leaseExpiresAt = some text → ∀ l n, instant? text = some l →
        instant? now = some n → n < l)
    (hevidence : (s.advanced target now f).checkEvidence = .ok ())
    (hshape : (s.advanced target now f).validateRecordShape = .ok ()) :
    ∃ next, s.transition target s.version now f = .ok next ∧
      next.toGateSessionRecord = s.advanced target now f := by
  have hvalid : (s.advanced target now f).check = .ok () :=
    GateSessionRecord.check_iff.mpr ⟨checkIdentity_advanced s target now f,
      checkTimes_advanced htimes hlease, hevidence, hshape⟩
  exact ⟨⟨_, hvalid⟩, transition_eq_ok.mpr ⟨rfl, hedge, hfields, htimes, rfl⟩, rfl⟩

theorem evidenceChecks (s : GateSession) : s.checkEvidence = .ok () :=
  (GateSessionRecord.check_iff.mp s.valid).2.2.1

theorem linkChecks (s : GateSession) : s.checkLinks = .ok () := by
  have h := (GateSessionRecord.check_iff.mp s.valid).2.2.2
  simp only [GateSessionRecord.validateRecordShape, bind_eq_ok, exists_unit] at h
  exact h.1

def closing (reason : Str) : TransitionFields := { terminalReason := some reason }

inductive Closes : GateSessionStatus → GateSessionStatus → Prop
  | cancelCreated : Closes .created .canceled
  | expirePrepared : Closes .prepared .expired
  | expireAwaiting : Closes .awaitingDecision .expired
  | abandon : Closes .executing .abandoned

theorem exists_closing {target : GateSessionStatus} {now reason : Str}
    (hcloses : Closes s.status target)
    (hreason : requiredReason reason (lit "terminal_reason") = .ok ())
    (htimes : s.checkTransitionTimes target now = .ok ()) :
    ∃ next, s.transition target s.version now (closing reason) = .ok next ∧
      next.toGateSessionRecord = s.advanced target now (closing reason) := by
  have hstatus := s.statusShape.1
  have hevidence : (s.advanced target now (closing reason)).checkEvidence = .ok () := by
    have h := s.evidenceChecks
    simp only [GateSessionRecord.checkEvidence, bind_eq_ok, exists_unit] at h ⊢
    obtain ⟨h₁, h₂, h₃, h₄, h₅, h₆, h₇, h₈, -⟩ := h
    exact ⟨h₁, h₂, h₃, h₄, h₅, h₆, h₇, h₈, hreason⟩
  have hshape : target.activeLease = false →
      (target = .canceled ∨ target = .expired ∨ target = .abandoned) → target.terminal = true →
      (s.advanced target now (closing reason)).checkStatus = .ok () →
      (s.advanced target now (closing reason)).validateRecordShape = .ok () := by
    intro hactive hnamed hterminal hcheck
    simp only [GateSessionRecord.validateRecordShape, bind_eq_ok, exists_unit]
    refine ⟨s.linkChecks, hcheck, ?_, ?_⟩
    · simp [GateSessionRecord.checkLeasePresence, advanced, hactive, hterminal]
    · simp [GateSessionRecord.checkReason, advanced, hnamed, closing]
  have hfields : ∀ name, (closing reason).has name = true ↔ name ∈ [SessionField.terminalReason] := by
    intro name
    cases name <;> simp [closing, TransitionFields.has]
  generalize hfrom : s.status = status at hcloses
  simp only [GateSessionRecord.checkStatus, hfrom] at hstatus
  cases hcloses with
  | cancelCreated =>
    simp only [raiseIf_eq_ok, not_or] at hstatus
    obtain ⟨-, -, hdecision, hinjection, houtcome, -, -⟩ := hstatus
    refine exists_transition (by rw [hfrom]; decide) hfields htimes (.inl rfl) hevidence
      (hshape rfl (.inl rfl) rfl ?_)
    exact raiseIf_of_not (not_or.mpr ⟨hdecision, not_or.mpr ⟨hinjection, houtcome⟩⟩)
  | expirePrepared | expireAwaiting =>
    rw [raiseIf_eq_ok] at hstatus
    exact exists_transition (by rw [hfrom]; decide) hfields htimes (.inl rfl) hevidence
      (hshape rfl (.inr (.inl rfl)) rfl (raiseIf_of_not hstatus))
  | abandon =>
    rw [raiseIf_eq_ok] at hstatus
    exact exists_transition (by rw [hfrom]; decide) hfields htimes (.inl rfl) hevidence
      (hshape rfl (.inr (.inr rfl)) rfl (raiseIf_of_not hstatus))

def finalizing (artifact usage : Str) : TransitionFields :=
  { finalMemoryRevisionIds := some []
    injectionArtifactId := some artifact
    usageDecisionId := some usage }

theorem exists_finalizing {now artifact usage : Str} (hfrom : s.status = .decided)
    (hartifact : requiredIdentifier artifact (lit "injection_artifact_id") = .ok ())
    (husage : requiredIdentifier usage (lit "usage_decision_id") = .ok ())
    (htimes : s.checkTransitionTimes .finalized now = .ok ())
    (hlease : ∀ text, s.leaseExpiresAt = some text → ∀ l n, instant? text = some l →
      instant? now = some n → n < l) :
    ∃ next, s.transition .finalized s.version now (finalizing artifact usage) = .ok next ∧
      next.toGateSessionRecord = s.advanced .finalized now (finalizing artifact usage) := by
  have hstatus := s.statusShape
  obtain ⟨hsystem, hattempts, hretrieval, -, -, -, -⟩ := s.links
  simp only [GateSessionRecord.checkStatus, GateSessionRecord.checkLeasePresence,
    GateSessionRecord.checkReason, hfrom, raiseIf_eq_ok, not_or, Bool.not_eq_false,
    Bool.not_eq_true] at hstatus
  obtain ⟨⟨hretrieved, hdecided, -, houtcome⟩, hpresent, hreason⟩ := hstatus
  have hevidence : (s.advanced .finalized now (finalizing artifact usage)).checkEvidence = .ok () := by
    have h := s.evidenceChecks
    simp only [GateSessionRecord.checkEvidence, bind_eq_ok, exists_unit] at h ⊢
    obtain ⟨h₁, h₂, h₃, h₄, -, -, -, h₈, -⟩ := h
    exact ⟨h₁, h₂, h₃, h₄, rfl, hartifact, husage, h₈, rfl⟩
  have hlinks : (s.advanced .finalized now (finalizing artifact usage)).checkLinks = .ok () := by
    simp only [GateSessionRecord.checkLinks, bind_eq_ok, exists_unit]
    refine ⟨raiseIf_of_not (not_not.mpr hsystem), raiseIf_of_not ?_, raiseIf_of_not ?_,
      raiseIf_of_not (not_not.mpr rfl), raiseIf_of_not ?_, raiseIf_of_not ?_, raiseIf_of_not ?_⟩
    · rintro ⟨hne, hnone⟩
      exact Bool.noConfusion (hnone.symm.trans (hattempts hne))
    · rintro ⟨-, hnone⟩
      exact Bool.noConfusion (hnone.symm.trans hretrieved)
    · rintro ⟨-, hnone⟩
      exact Bool.noConfusion (hnone.symm.trans hdecided)
    · rintro ⟨hne, -⟩
      exact hne rfl
    · rintro ⟨hsome, -⟩
      exact Bool.noConfusion (houtcome.symm.trans hsome)
  have hshape : (s.advanced .finalized now (finalizing artifact usage)).validateRecordShape = .ok () := by
    simp only [GateSessionRecord.validateRecordShape, bind_eq_ok, exists_unit]
    refine ⟨hlinks, raiseIf_of_not ?_, raiseIf_of_not (raiseIf_eq_ok.mp hpresent),
      raiseIf_of_not (by simp [advanced])⟩
    rintro (hnone | hsome)
    · cases hnone
    · exact Bool.noConfusion (houtcome.symm.trans hsome)
  refine exists_transition (by rw [hfrom]; decide) ?_ htimes (.inr ⟨rfl, hlease⟩) hevidence hshape
  intro name
  cases name <;> simp [finalizing, TransitionFields.has, allowedFields]

theorem exists_executing {now : Str} (hfrom : s.status = .finalized)
    (htimes : s.checkTransitionTimes .executing now = .ok ())
    (hlease : ∀ text, s.leaseExpiresAt = some text → ∀ l n, instant? text = some l →
      instant? now = some n → n < l) :
    ∃ next, s.transition .executing s.version now {} = .ok next ∧
      next.toGateSessionRecord = s.advanced .executing now {} := by
  have hstatus := s.statusShape
  simp only [GateSessionRecord.checkStatus, GateSessionRecord.checkLeasePresence, hfrom] at hstatus
  obtain ⟨hinjected, hpresent, -⟩ := hstatus
  have hevidence : (s.advanced .executing now {}).checkEvidence = .ok () := by
    have h := s.evidenceChecks
    simp only [GateSessionRecord.checkEvidence, bind_eq_ok, exists_unit] at h ⊢
    obtain ⟨h₁, h₂, h₃, h₄, h₅, h₆, h₇, h₈, -⟩ := h
    exact ⟨h₁, h₂, h₃, h₄, h₅, h₆, h₇, h₈, rfl⟩
  have hshape : (s.advanced .executing now {}).validateRecordShape = .ok () := by
    simp only [GateSessionRecord.validateRecordShape, bind_eq_ok, exists_unit]
    refine ⟨s.linkChecks, ?_, ?_, raiseIf_of_not (by simp [advanced])⟩
    · exact raiseIf_of_not (raiseIf_eq_ok.mp hinjected)
    · exact raiseIf_of_not (raiseIf_eq_ok.mp hpresent)
  refine exists_transition (by rw [hfrom]; decide) ?_ htimes (.inr ⟨rfl, hlease⟩) hevidence hshape
  intro name
  cases name <;> simp [TransitionFields.has, allowedFields]

theorem exists_renewal {now lease : Str} {u l n e : Int} (hactive : s.status.activeLease = true)
    (hcurrent : s.leaseExpiresAt.bind instant? = some l) (hnext : instant? lease = some n)
    (hnow : instant? now = some u) (hupdated : ∀ p, instant? s.updatedAt = some p → p < u)
    (hexpires : instant? s.expiresAt = some e) (hlive : u < l) (hextends : l < n) (hle : n ≤ e) :
    ∃ next, s.renewLease s.version now lease = .ok next ∧
      next.toGateSessionRecord = s.renewed now lease := by
  obtain ⟨c, p, e', h⟩ := s.times
  obtain rfl : e = e' := Option.some.inj (hexpires.symm.trans h.expires)
  have hlt := hupdated p h.updated
  have hcu := h.created_le
  have hnonterminal : s.status.terminal = false := GateSessionStatus.live_of_activeLease hactive
  have htimes : (s.renewed now lease).checkTimes = .ok () := by
    refine GateSessionRecord.checkTimes_iff.mpr ⟨c, u, e, h.created, hnow, h.expires, by omega,
      h.created_lt, fun _ => by omega, ?_, ?_⟩
    · intro hexpired
      have hfalse : s.status = .expired := hexpired
      rw [hfalse] at hnonterminal
      cases hnonterminal
    · intro text htext
      obtain rfl : lease = text := Option.some.inj htext
      exact ⟨n, hnext, by omega, hle⟩
  obtain ⟨hidentity, -, hevidence, hshape⟩ := GateSessionRecord.check_iff.mp s.valid
  have hids : (s.renewed now lease).checkIdentity = .ok () := by
    simp only [GateSessionRecord.checkIdentity, bind_eq_ok, exists_unit, raiseIf_eq_ok] at hidentity ⊢
    obtain ⟨h₁, h₂, h₃, -⟩ := hidentity
    exact ⟨h₁, h₂, h₃, Nat.not_lt.mpr (Nat.le_add_left 1 s.version)⟩
  have hrecord : (s.renewed now lease).validateRecordShape = .ok () := by
    have hpresence : (s.renewed now lease).checkLeasePresence = .ok () := by
      refine (if_pos ?_).trans (raiseIf_of_not (by rintro ⟨⟩))
      exact hactive
    have hstatus : (s.renewed now lease).checkStatus = .ok () := by
      have hs := s.statusShape.1
      revert hactive
      simp only [GateSessionRecord.checkStatus, renewed] at hs ⊢
      cases hstatus : s.status <;> simp_all [GateSessionStatus.activeLease, GateSessionRecord.hasRetrieval,
        GateSessionRecord.hasDecision, GateSessionRecord.hasInjection, GateSessionRecord.hasOutcome]
    simp only [GateSessionRecord.validateRecordShape, bind_eq_ok, exists_unit]
    exact ⟨s.linkChecks, hstatus, hpresence, s.statusShape.2.2⟩
  have hvalid : (s.renewed now lease).check = .ok () :=
    GateSessionRecord.check_iff.mpr ⟨hids, htimes, hevidence, hrecord⟩
  exact ⟨⟨_, hvalid⟩, renewLease_eq_ok.mpr ⟨rfl, hactive, ⟨l, n, u, p, hcurrent, hnext, hnow, h.updated,
    hlt, hlive, hextends⟩, rfl⟩, rfl⟩

end GateSession

end Transitions

section Clock

namespace GateRepository

def lastUpdate (s : GateSession) : Nat := micros s.updatedAt

theorem instant_of_canonical {text : Str} (h : CanonicalText text) :
    instant? text = some (micros text : Int) ∧ micros text ≤ maxInstant := by
  obtain ⟨i, hi, -, hinstant⟩ := h.instant
  have hmicros : micros text = i := by
    rw [micros, hinstant]
    rfl
  rw [hmicros]
  exact ⟨hinstant, hi⟩

theorem CanonicalTimes.updated_instant {s : GateSession} (h : CanonicalTimes s) :
    instant? s.updatedAt = some (lastUpdate s : Int) := (instant_of_canonical h.updated).1

theorem CanonicalTimes.expires_instant {s : GateSession} (h : CanonicalTimes s) :
    instant? s.expiresAt = some (GateRepository.expires s : Int) :=
  (instant_of_canonical h.expires).1

theorem Leased.lease_instant {s : GateSession} (h : Leased s) :
    ∃ text, s.leaseExpiresAt = some text ∧ instant? text = some (GateRepository.lease s : Int) :=
  ⟨_, h.lease_eq, instant_isoformat h.lease_max⟩

theorem Leased.lease_eq_of {s : GateSession} (h : Leased s) {text : Str} {l : Int}
    (htext : s.leaseExpiresAt = some text) (hl : instant? text = some l) :
    l = GateRepository.lease s := by
  obtain ⟨text', htext', hl'⟩ := h.lease_instant
  obtain rfl : text = text' := Option.some.inj (htext.symm.trans htext')
  exact Option.some.inj (hl.symm.trans hl')

theorem updated_lt_lease {s : GateSession} (h : CanonicalTimes s) (hleased : Leased s) :
    lastUpdate s < lease s := by
  obtain ⟨c, u, e, htimes⟩ := s.times
  obtain ⟨text, htext, -⟩ := hleased.lease_instant
  obtain ⟨l, hl, hlt, -⟩ := htimes.lease text htext
  have hu : u = lastUpdate s := Option.some.inj (htimes.updated.symm.trans h.updated_instant)
  have hlease := hleased.lease_eq_of htext hl
  omega

theorem utcText_of_le {i : Nat} (h : i ≤ maxInstant) : utcText? (i : Int) = some (isoformat i) := by
  have hrange : (0 : Int) ≤ i ∧ (i : Int) ≤ maxInstant := by omega
  rw [utcText?, if_pos hrange]
  rfl

theorem trustedAfter_of_later {reading : Str} {s : GateSession} {i : Nat} (h : CanonicalTimes s)
    (hi : i ≤ maxInstant) (hreading : instant? reading = some (i : Int)) (hlt : lastUpdate s < i) :
    trustedAfter reading s.updatedAt = .ok (isoformat i) := by
  have hnow := trustedNow_of_instant hi hreading
  have hparsed : GateSession.instant (isoformat i) = .ok (i : Int) :=
    GateSession.instant_eq_ok.mpr (instant_isoformat hi)
  have hprevious : GateSession.instant s.updatedAt = .ok (lastUpdate s : Int) :=
    GateSession.instant_eq_ok.mpr h.updated_instant
  have hback : ¬(i : Int) < lastUpdate s := by omega
  have hne : ¬(i : Int) = lastUpdate s := by omega
  rw [trustedAfter, hnow]
  show (do
    let parsedNow ← GateSession.instant (isoformat i)
    let parsedPrevious ← GateSession.instant s.updatedAt
    raiseIf (parsedNow < parsedPrevious) movedBackwards
    if parsedNow = parsedPrevious then
      demand (utcText? (parsedPrevious + 1000000)) dateOutOfRange
    else .ok (isoformat i)) = Except.ok (isoformat i)
  rw [hparsed, hprevious]
  show (do
    raiseIf ((i : Int) < lastUpdate s) movedBackwards
    if (i : Int) = lastUpdate s then
      demand (utcText? ((lastUpdate s : Int) + 1000000)) dateOutOfRange
    else .ok (isoformat i)) = Except.ok (isoformat i)
  rw [raiseIf_of_not hback, if_neg hne]
  rfl

theorem checkTransitionTimes_at {s : GateSession} {i : Nat} {target : GateSessionStatus}
    (h : CanonicalTimes s) (hi : i ≤ maxInstant) (hlt : lastUpdate s < i)
    (hlive : target.terminal = false → i ≤ expires s) (hover : target = .expired → expires s ≤ i) :
    s.checkTransitionTimes target (isoformat i) = .ok () := by
  refine GateSession.checkTransitionTimes_eq_ok.mpr ⟨lastUpdate s, i, expires s, h.updated_instant,
    instant_isoformat hi, h.expires_instant, by omega, ?_, ?_⟩
  · intro hterminal
    have hle := hlive hterminal
    omega
  · intro hexpired
    have hle := hover hexpired
    omega

theorem requireLiveTransition_iff {s : GateSession} {i : Nat} {target : GateSessionStatus}
    (h : CanonicalTimes s) (hi : i ≤ maxInstant) :
    requireLiveTransition s (isoformat i) target = .ok () ↔
      (target = .expired ∨ i < expires s ∧
        ∀ text, s.leaseExpiresAt = some text → ∃ l : Int, instant? text = some l ∧ (i : Int) < l) := by
  have hnow : GateSession.instant (isoformat i) = .ok (i : Int) :=
    GateSession.instant_eq_ok.mpr (instant_isoformat hi)
  rw [requireLiveTransition, hnow]
  show (if target = .expired then Except.ok () else _) = Except.ok () ↔ _
  split
  · rename_i hexpired
    simp [hexpired]
  · rename_i hexpired
    simp only [bind_eq_ok, exists_unit, GateSession.instant_eq_ok, raiseIf_eq_ok, not_le,
      h.expires_instant, Option.some.injEq, hexpired, false_or, exists_eq_left']
    have hcast : (i : Int) < (expires s : Int) ↔ i < expires s := by omega
    rw [hcast]
    refine and_congr_right fun _ => ?_
    cases s.leaseExpiresAt with
    | none => simp
    | some value =>
      simp only [bind_eq_ok, GateSession.instant_eq_ok, raiseIf_eq_ok, not_le, Option.some.injEq,
        forall_eq']

end GateRepository

end Clock

section Storing

namespace GateRepository

theorem selectCurrent_iff {table : GateTable} (h : Stored table) {sessionId : Str} {s : GateSession} :
    selectCurrent table sessionId = .ok s ↔ s ∈ currents table ∧ s.sessionId = sessionId := by
  constructor
  · intro hselect
    obtain ⟨e, he, rfl, hid⟩ := selectCurrent_eq_ok hselect
    exact ⟨List.mem_map_of_mem he, hid⟩
  · rintro ⟨hs, hid⟩
    have hfound : (table.find? (fun e => decide (e.current.sessionId = sessionId))).isSome = true := by
      obtain ⟨e, he, rfl⟩ := List.mem_map.mp hs
      exact List.find?_isSome.mpr ⟨e, he, decide_eq_true hid⟩
    obtain ⟨d, hd⟩ := Option.isSome_iff_exists.mp hfound
    have hdid : d.current.sessionId = sessionId := by simpa using List.find?_some hd
    have hmem : d.current ∈ currents table := List.mem_map_of_mem (List.mem_of_find?_eq_some hd)
    have heq : d.current = s := h.session_unique hmem hs (hdid.trans hid.symm)
    rw [selectCurrent, hd, Option.map_some, heq]
    rfl

theorem mem_currents_appendRevision {table : GateTable} {next s : GateSession}
    (h : ∃ s ∈ currents table, s.sessionId = next.sessionId) :
    s ∈ currents (appendRevision table next) ↔
      s = next ∨ s ∈ currents table ∧ s.sessionId ≠ next.sessionId := by
  simp only [currents, appendRevision, List.map_map, List.mem_map, Function.comp_apply]
  constructor
  · rintro ⟨e, he, rfl⟩
    split
    · exact .inl rfl
    · rename_i hne
      exact .inr ⟨⟨e, he, rfl⟩, hne⟩
  · rintro (rfl | ⟨⟨e, he, rfl⟩, hne⟩)
    · obtain ⟨d, hmem, hid⟩ := h
      obtain ⟨e, he, rfl⟩ := List.mem_map.mp hmem
      exact ⟨e, he, by rw [if_pos hid]⟩
    · exact ⟨e, he, by rw [if_neg hne]⟩

theorem transitionStored_of_session {allow : Bool} {table : GateTable} (h : Stored table)
    {s next : GateSession} (hs : s ∈ currents table) {reading : Str} {i : Nat}
    (hi : i ≤ maxInstant) (hreading : instant? reading = some (i : Int)) (hlt : lastUpdate s < i)
    {target : GateSessionStatus} (htarget : target ≠ .completed)
    (hlive : requireLiveTransition s (isoformat i) target = .ok ())
    {f : TransitionFields} (hlease : f.leaseExpiresAt = none)
    (hnext : s.transition target s.version (isoformat i) f = .ok next) :
    transitionStored allow table reading s.sessionId target s.version none f =
      .ok (next, appendRevision table next) := by
  have hselect : selectCurrent table s.sessionId = .ok s := (selectCurrent_iff h).mpr ⟨hs, rfl⟩
  obtain ⟨e, he, rfl⟩ := mem_currents hs
  have hnow := trustedAfter_of_later (h.times e he) hi hreading hlt
  have hfields : ({ f with leaseExpiresAt := none } : TransitionFields) = f := by
    rw [← hlease]
  rw [transitionStored, raiseIf_of_not (fun hc => htarget hc.1), hselect]
  show (do
    let now ← trustedAfter reading e.current.updatedAt
    requireLiveTransition e.current now target
    let lease ← leaseDeadline now none
    let next ← e.current.transition target e.current.version now { f with leaseExpiresAt := lease }
    return (next, appendRevision table next)) = Except.ok (next, appendRevision table next)
  rw [hnow]
  show (do
    requireLiveTransition e.current (isoformat i) target
    let next ← e.current.transition target e.current.version (isoformat i)
      { f with leaseExpiresAt := none }
    return (next, appendRevision table next)) = Except.ok (next, appendRevision table next)
  rw [hlive, hfields]
  show (do
    let next ← e.current.transition target e.current.version (isoformat i) f
    return (next, appendRevision table next)) = Except.ok (next, appendRevision table next)
  rw [hnext]
  rfl

end GateRepository

end Storing

end TraceBackedMemory
