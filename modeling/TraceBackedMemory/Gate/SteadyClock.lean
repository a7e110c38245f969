import TraceBackedMemory.Gate.Repository

namespace TraceBackedMemory

open Text Raising

section Faults

def Contractual (e : GateError) : Prop := e.fault = .contract ∨ e.fault = .valueError

theorem requiredText_raises (limit : Nat) (value name : Str) :
    Raises Contractual (requiredText limit value name) :=
  (raises_raiseIf (.inl rfl)).bind (fun _ => raises_raiseIf (.inl rfl))

theorem optionalIdentifier_raises (value : Option Str) (name : Str) :
    Raises Contractual (optionalIdentifier value name) := by
  cases value with
  | none => exact raises_ok ()
  | some v => exact requiredText_raises 128 v name

theorem identifierTuple_raises (value : List Str) (name : Str) (maxItems : Nat) :
    Raises Contractual (identifierTuple value name maxItems) := by
  refine (raises_raiseIf (.inl rfl)).bind (fun _ => ?_)
  refine (raises_checkEach (fun item => requiredText_raises 128 item name) value).bind (fun _ => ?_)
  exact raises_raiseIf (.inl rfl)

namespace GateSessionRecord

variable (r : GateSessionRecord)

theorem checkIdentity_raises : Raises Contractual r.checkIdentity := by
  refine (raises_checkEach (fun f : Str × Str => requiredText_raises 128 f.2 f.1) _).bind (fun _ => ?_)
  refine (raises_raiseIf (.inl rfl)).bind (fun _ => ?_)
  refine (requiredText_raises 512 _ _).bind (fun _ => ?_)
  exact raises_raiseIf (.inl rfl)

theorem checkLease_raises (updated expires : Int) : Raises Contractual (r.checkLease updated expires) := by
  unfold checkLease
  split
  · exact raises_ok ()
  · exact (raises_demand (.inl rfl)).bind (fun _ => raises_raiseIf (.inl rfl))

theorem checkTimes_raises : Raises Contractual r.checkTimes := by
  refine (raises_demand (.inl rfl)).bind (fun _ => ?_)
  refine (raises_demand (.inl rfl)).bind (fun _ => ?_)
  refine (raises_demand (.inl rfl)).bind (fun _ => ?_)
  refine (raises_raiseIf (.inl rfl)).bind (fun _ => ?_)
  refine (raises_raiseIf (.inl rfl)).bind (fun _ => ?_)
  refine (raises_raiseIf (.inl rfl)).bind (fun _ => ?_)
  refine (raises_raiseIf (.inl rfl)).bind (fun _ => ?_)
  exact r.checkLease_raises _ _

theorem checkEvidence_raises : Raises Contractual r.checkEvidence := by
  refine (optionalIdentifier_raises _ _).bind (fun _ => ?_)
  refine (optionalIdentifier_raises _ _).bind (fun _ => ?_)
  refine (identifierTuple_raises _ _ _).bind (fun _ => ?_)
  refine (optionalIdentifier_raises _ _).bind (fun _ => ?_)
  refine (identifierTuple_raises _ _ _).bind (fun _ => ?_)
  refine (optionalIdentifier_raises _ _).bind (fun _ => ?_)
  refine (optionalIdentifier_raises _ _).bind (fun _ => ?_)
  refine (optionalIdentifier_raises _ _).bind (fun _ => ?_)
  cases r.terminalReason with
  | none => exact raises_ok ()
  | some v => exact requiredText_raises 2000 v _

theorem validateRecordShape_raises : Raises Contractual r.validateRecordShape := by
  have hlinks : Raises Contractual r.checkLinks := by
    refine (raises_raiseIf (.inl rfl)).bind (fun _ => ?_)
    refine (raises_raiseIf (.inl rfl)).bind (fun _ => ?_)
    refine (raises_raiseIf (.inl rfl)).bind (fun _ => ?_)
    refine (raises_raiseIf (.inl rfl)).bind (fun _ => ?_)
    refine (raises_raiseIf (.inl rfl)).bind (fun _ => ?_)
    refine (raises_raiseIf (.inl rfl)).bind (fun _ => ?_)
    exact raises_raiseIf (.inl rfl)
  have hstatus : Raises Contractual r.checkStatus := by
    unfold checkStatus
    split <;> exact raises_raiseIf (.inl rfl)
  have hlease : Raises Contractual r.checkLeasePresence := by
    unfold checkLeasePresence
    split <;> exact raises_raiseIf (.inl rfl)
  have hreason : Raises Contractual r.checkReason := by
    unfold checkReason
    split <;> exact raises_raiseIf (.inl rfl)
  exact hlinks.bind (fun _ => hstatus.bind (fun _ => hlease.bind (fun _ => hreason)))

theorem build_raises : Raises Contractual r.build := by
  have hcheck : Raises Contractual r.check :=
    r.checkIdentity_raises.bind (fun _ => r.checkTimes_raises.bind (fun _ =>
      r.checkEvidence_raises.bind (fun _ => r.validateRecordShape_raises)))
  intro e h
  unfold build at h
  split at h
  · cases h
  · rename_i e' he'
    cases h
    exact hcheck _ he'

end GateSessionRecord

theorem instant_raises (text : Str) : Raises Contractual (GateSession.instant text) :=
  raises_demand (.inr rfl)

theorem refuseFirst_raises (text : Str) (fields : List SessionField) :
    Raises Contractual (refuseFirst text fields) := by
  unfold refuseFirst
  split
  · exact raises_ok ()
  · exact raises_error (.inl rfl)

theorem transition_raises (s : GateSession) (target : GateSessionStatus) (v : Nat) (now : Str)
    (f : TransitionFields) : Raises Contractual (s.transition target v now f) := by
  have htimes : Raises Contractual (s.checkTransitionTimes target now) := by
    refine (instant_raises _).bind (fun _ => ?_)
    refine (raises_demand (.inl rfl)).bind (fun _ => ?_)
    refine (raises_raiseIf (.inl rfl)).bind (fun _ => ?_)
    refine (instant_raises _).bind (fun _ => ?_)
    refine (raises_raiseIf (.inl rfl)).bind (fun _ => ?_)
    exact raises_raiseIf (.inl rfl)
  refine (raises_raiseIf (.inl rfl)).bind (fun _ => ?_)
  refine (raises_raiseIf (.inl rfl)).bind (fun _ => ?_)
  refine (refuseFirst_raises _ _).bind (fun _ => ?_)
  refine (refuseFirst_raises _ _).bind (fun _ => ?_)
  exact htimes.bind (fun _ => GateSessionRecord.build_raises _)

theorem renewLease_raises (s : GateSession) (v : Nat) (now lease : Str) :
    Raises Contractual (s.renewLease v now lease) := by
  refine (raises_raiseIf (.inl rfl)).bind (fun _ => ?_)
  refine (raises_raiseIf (.inl rfl)).bind (fun _ => ?_)
  refine (raises_demand (.inl rfl)).bind (fun _ => ?_)
  refine (raises_demand (.inl rfl)).bind (fun _ => ?_)
  refine (raises_demand (.inl rfl)).bind (fun _ => ?_)
  refine (instant_raises _).bind (fun _ => ?_)
  refine (raises_raiseIf (.inl rfl)).bind (fun _ => ?_)
  refine (raises_raiseIf (.inl rfl)).bind (fun _ => ?_)
  refine (raises_raiseIf (.inl rfl)).bind (fun _ => ?_)
  exact GateSessionRecord.build_raises _

end Faults

namespace GateRepository

section Readings

def NotBackwards (e : GateError) : Prop := e ≠ movedBackwards

theorem Contractual.notBackwards (e : GateError) (h : Contractual e) : NotBackwards e := by
  rintro rfl
  rcases h with h | h <;> cases h

theorem conflict_notBackwards (code message : Str) : NotBackwards ⟨.conflict, code, message⟩ := by
  intro h
  have hfault : GateFault.conflict = GateFault.persistence := congrArg GateError.fault h
  cases hfault

theorem overflow_notBackwards : NotBackwards dateOutOfRange := by
  intro h
  exact absurd (congrArg GateError.fault h) (by decide)

theorem trustedNow_raises (reading : Str) : Raises NotBackwards (trustedNow reading) := by
  refine (raises_demand ?_).bind (fun _ => raises_demand overflow_notBackwards)
  intro h
  exact absurd (congrArg (fun e => e.message.length) h) (by decide)

theorem deadline_raises (now : Str) (seconds : Int) (maximum : Nat) :
    Raises NotBackwards (deadline now seconds maximum) := by
  refine (raises_raiseIf (Contractual.notBackwards _ (.inr rfl))).bind (fun _ => ?_)
  refine ((instant_raises _).imp Contractual.notBackwards).bind (fun _ => ?_)
  exact raises_demand overflow_notBackwards

theorem leaseDeadline_raises (now : Str) (seconds : Option Int) :
    Raises NotBackwards (leaseDeadline now seconds) := by
  cases seconds with
  | none => exact raises_ok none
  | some n => exact (deadline_raises now n maxLeaseSeconds).bind (fun _ => raises_pure _)

theorem selectCurrent_raises (table : GateTable) (sessionId : Str) :
    Raises NotBackwards (selectCurrent table sessionId) := by
  apply raises_demand
  intro h
  exact absurd (congrArg GateError.fault h) (by decide)

theorem requireLiveTransition_raises (current : GateSession) (now : Str) (target : GateSessionStatus) :
    Raises NotBackwards (requireLiveTransition current now target) := by
  refine ((instant_raises _).imp Contractual.notBackwards).bind (fun _ => ?_)
  split
  · exact raises_ok ()
  refine ((instant_raises _).imp Contractual.notBackwards).bind (fun _ => ?_)
  refine (raises_raiseIf (conflict_notBackwards _ _)).bind (fun _ => ?_)
  split
  · exact raises_ok ()
  refine ((instant_raises _).imp Contractual.notBackwards).bind (fun _ => ?_)
  exact raises_raiseIf (conflict_notBackwards _ _)

theorem createOrGet_raises (table : GateTable) (reading : Str) (i : SessionIdentity) (seconds : Int) :
    Raises NotBackwards (createOrGet table reading i seconds) := by
  refine (trustedNow_raises _).bind (fun _ => ?_)
  refine (deadline_raises _ _ _).bind (fun _ => ?_)
  refine ((GateSessionRecord.build_raises _).imp Contractual.notBackwards).bind (fun _ => ?_)
  split
  · exact (raises_raiseIf (conflict_notBackwards _ _)).bind (fun _ => raises_pure _)
  refine (raises_raiseIf (conflict_notBackwards _ _)).bind (fun _ => ?_)
  refine (raises_raiseIf ?_).bind (fun _ => raises_pure _)
  intro h
  exact absurd (congrArg (fun e => e.code.length) h) (by decide)

theorem listDue_raises (table : GateTable) (reading : Str) (limit : Int) :
    Raises NotBackwards (listDue table reading limit) := by
  refine (raises_raiseIf (Contractual.notBackwards _ (.inr rfl))).bind (fun _ => ?_)
  exact (trustedNow_raises _).bind (fun _ => raises_pure _)

def Behind (reading : Str) (s : GateSession) : Prop :=
  ∃ i u, instant? reading = some i ∧ instant? s.updatedAt = some u ∧ i < u

theorem trustedAfter_backwards {reading : Str} {s : GateSession}
    (h : trustedAfter reading s.updatedAt = .error movedBackwards) : Behind reading s := by
  rcases bind_eq_error.mp h with h | ⟨now, hnow, h⟩
  · exact absurd rfl (trustedNow_raises _ _ h)
  obtain ⟨i, hi, -, hinstant⟩ := trustedNow_eq_ok hnow
  rcases bind_eq_error.mp h with h | ⟨n, hn, h⟩
  · exact absurd rfl (Contractual.notBackwards _ (instant_raises _ _ h))
  obtain rfl : n = i := Option.some.inj ((GateSession.instant_eq_ok.mp hn).symm.trans hinstant)
  rcases bind_eq_error.mp h with h | ⟨u, hu, h⟩
  · exact absurd rfl (Contractual.notBackwards _ (instant_raises _ _ h))
  rcases bind_eq_error.mp h with h | ⟨-, -, h⟩
  · refine ⟨n, u, hi, GateSession.instant_eq_ok.mp hu, ?_⟩
    by_contra hlt
    rw [raiseIf_of_not hlt] at h
    cases h
  · split at h
    · exact absurd rfl (raises_demand overflow_notBackwards _ h)
    · cases h

def GateCall.sessionId? : GateCall → Option Str
  | createOrGet _ _ | listDue _ => none
  | transition sessionId _ _ _ _ | renewLease sessionId _ _ => some sessionId

theorem perform_backwards {allow : Bool} {table : GateTable} {reading : Str} {call : GateCall}
    (h : call.perform allow table reading = .error movedBackwards) :
    ∃ sessionId s, call.sessionId? = some sessionId ∧ selectCurrent table sessionId = .ok s ∧
      Behind reading s := by
  cases call with
  | createOrGet i seconds => exact absurd rfl (createOrGet_raises _ _ _ _ _ (map_eq_error.mp h))
  | listDue limit => exact absurd rfl (listDue_raises _ _ _ _ (map_eq_error.mp h))
  | transition sessionId target v lease f =>
    rcases bind_eq_error.mp (map_eq_error.mp h) with h | ⟨-, -, h⟩
    · exact absurd rfl (raises_raiseIf (conflict_notBackwards _ _) _ h)
    rcases bind_eq_error.mp h with h | ⟨s, hs, h⟩
    · exact absurd rfl (selectCurrent_raises _ _ _ h)
    refine ⟨sessionId, s, rfl, hs, ?_⟩
    rcases bind_eq_error.mp h with h | ⟨now, -, h⟩
    · exact trustedAfter_backwards h
    rcases bind_eq_error.mp h with h | ⟨-, -, h⟩
    · exact absurd rfl (requireLiveTransition_raises _ _ _ _ h)
    rcases bind_eq_error.mp h with h | ⟨_, -, h⟩
    · exact absurd rfl (leaseDeadline_raises _ _ _ h)
    rcases bind_eq_error.mp h with h | ⟨_, -, h⟩
    · exact absurd rfl (Contractual.notBackwards _ (transition_raises _ _ _ _ _ _ h))
    · cases h
  | renewLease sessionId v seconds =>
    rcases bind_eq_error.mp (map_eq_error.mp h) with h | ⟨s, hs, h⟩
    · exact absurd rfl (selectCurrent_raises _ _ _ h)
    refine ⟨sessionId, s, rfl, hs, ?_⟩
    rcases bind_eq_error.mp h with h | ⟨now, -, h⟩
    · exact trustedAfter_backwards h
    rcases bind_eq_error.mp h with h | ⟨_, -, h⟩
    · exact absurd rfl (deadline_raises _ _ _ _ h)
    rcases bind_eq_error.mp h with h | ⟨_, -, h⟩
    · exact absurd rfl (Contractual.notBackwards _ (renewLease_raises _ _ _ _ _ h))
    · cases h

end Readings

section SteadyRuns

variable (allowDirectCompletion : Bool)

def Steady (calls : List (Str × GateCall)) : Prop :=
  calls.Pairwise (fun a b => ∀ i j, instant? a.1 = some i → instant? b.1 = some j → i ≤ j)

def FreshReading (table : GateTable) (reading : Str) (call : GateCall) : Prop :=
  ∀ sessionId s, call.sessionId? = some sessionId → selectCurrent table sessionId = .ok s →
    instant? reading ≠ instant? s.updatedAt

def FreshReadings (table : GateTable) : List (Str × GateCall) → Prop
  | [] => True
  | (reading, call) :: l =>
    FreshReading table reading call ∧
      FreshReadings (settled table (call.perform allowDirectCompletion table reading)) l

def NotAhead (table : GateTable) (reading : Str) : Prop :=
  ∀ e ∈ table, ¬Behind reading e.current

theorem NotAhead.perform {allow : Bool} {table t : GateTable} {reading later : Str} {call : GateCall}
    (hlater : NotAhead table later) (hfresh : FreshReading table reading call)
    (hle : ∀ i j, instant? reading = some i → instant? later = some j → i ≤ j)
    (h : call.perform allow table reading = .ok t) : NotAhead t later := by
  have keeps {s next : GateSession} {sessionId now : Str}
      (hid : call.sessionId? = some sessionId) (hs : selectCurrent table sessionId = .ok s)
      (hnow : trustedAfter reading s.updatedAt = .ok now) (hnext : next.updatedAt = now) :
      NotAhead (appendRevision table next) later := by
    obtain ⟨i, p, hi, hp, -, -, hinstant⟩ := trustedAfter_eq_ok hnow
    have hne : i ≠ p := by
      rintro rfl
      exact hfresh sessionId s hid hs (hi.trans hp.symm)
    rw [if_neg hne] at hinstant
    intro e he
    rcases mem_appendRevision he with heq | hmem
    · rintro ⟨j, u, hj, hu, hlt⟩
      rw [heq, hnext, hinstant] at hu
      have hij := hle i j hi hj
      cases hu
      omega
    · exact hlater e hmem
  cases call with
  | createOrGet i seconds =>
    obtain ⟨⟨r, u⟩, hr, rfl⟩ := map_eq_ok.mp h
    obtain ⟨now, expiresAt, proposed, hnow, -, hproposed, rfl | ⟨rfl, -⟩⟩ := createOrGet_eq_ok hr
    · exact hlater
    · intro e he
      rcases List.mem_append.mp he with he | he
      · exact hlater e he
      · obtain ⟨n, hn, -, hinstant⟩ := trustedNow_eq_ok hnow
        rw [List.mem_singleton.mp he]
        rintro ⟨j, u, hj, hu, hlt⟩
        rw [GateSessionRecord.build_eq_ok.mp hproposed, hinstant] at hu
        have hnj := hle n j hn hj
        cases hu
        omega
  | transition sessionId target v lease f =>
    obtain ⟨⟨next, u⟩, hr, rfl⟩ := map_eq_ok.mp h
    obtain ⟨s, now, leaseText, hs, hnow, -, hnext, rfl⟩ := transitionStored_eq_ok hr
    refine keeps rfl hs hnow ?_
    rw [(GateSession.transition_eq_ok.mp hnext).2.2.2.2]
    rfl
  | renewLease sessionId v seconds =>
    obtain ⟨⟨next, u⟩, hr, rfl⟩ := map_eq_ok.mp h
    obtain ⟨s, now, leaseText, hs, hnow, -, hnext, rfl⟩ := renewStoredLease_eq_ok hr
    refine keeps rfl hs hnow ?_
    rw [(GateSession.renewLease_eq_ok.mp hnext).2.2.2]
    rfl
  | listDue limit =>
    obtain ⟨-, -, rfl⟩ := map_eq_ok.mp h
    exact hlater

theorem outcomes_not_backwards {table : GateTable} {calls : List (Str × GateCall)}
    (hahead : ∀ c ∈ calls, NotAhead table c.1) (hsteady : Steady calls)
    (hfresh : FreshReadings allowDirectCompletion table calls) :
    ∀ r ∈ outcomes allowDirectCompletion table calls, r ≠ .error movedBackwards := by
  induction calls generalizing table with
  | nil =>
    intro r hr
    cases hr
  | cons c l ih =>
    obtain ⟨reading, call⟩ := c
    obtain ⟨hle, hsteady⟩ := List.pairwise_cons.mp hsteady
    intro r hr
    rcases List.mem_cons.mp hr with rfl | hr
    · intro hback
      obtain ⟨sessionId, s, -, hs, hbehind⟩ := perform_backwards hback
      obtain ⟨e, he, rfl, -⟩ := selectCurrent_eq_ok hs
      exact hahead (reading, call) (by simp) e he hbehind
    · refine ih ?_ hsteady hfresh.2 r hr
      intro d hd
      have hlater := hahead d (List.mem_cons_of_mem _ hd)
      cases hcall : call.perform allowDirectCompletion table reading with
      | error e => exact hlater
      | ok t => exact hlater.perform hfresh.1 (fun i j => hle d hd i j) hcall

theorem steady_clock_not_rejected (calls : List (Str × GateCall)) (hsteady : Steady calls)
    (hfresh : FreshReadings allowDirectCompletion [] calls) :
    ∀ r ∈ outcomes allowDirectCompletion [] calls, r ≠ .error movedBackwards := by
  apply outcomes_not_backwards
  · intro c _ e he
    cases he
  · exact hsteady
  · exact hfresh

theorem fresh_of_updated {table : GateTable} {reading sessionId updatedAt : Str} {call : GateCall}
    (hid : call.sessionId? = some sessionId)
    (h : (selectCurrent table sessionId).toOption.map (fun s => s.updatedAt) = some updatedAt)
    (hne : instant? reading ≠ instant? updatedAt) : FreshReading table reading call := by
  intro id s hcall hs
  obtain rfl : sessionId = id := Option.some.inj (hid.symm.trans hcall)
  rw [hs] at h
  obtain rfl : s.updatedAt = updatedAt := Option.some.inj h
  exact hne

def preparingCalls (second third : Str) : List (Str × GateCall) :=
  [(lit "2026-01-01T00:00:00Z", .createOrGet sampleIdentity 3600),
    (second, .transition (lit "session-1") .prepared 1 (some 60)
      { retrievalSnapshotId := some (lit "snapshot-1")
        systemGateEvaluationId := some (lit "evaluation-1") }),
    (third, .transition (lit "session-1") .awaitingDecision 2 none {})]

def backwards (r : Except GateError GateTable) : Bool :=
  match r with
  | .ok _ => false
  | .error e => decide (e = movedBackwards)

theorem steady_of_instants {calls : List (Str × GateCall)} {is : List Int}
    (h : calls.map (fun c => instant? c.1) = is.map some) (hs : is.Pairwise (· ≤ ·)) :
    Steady calls := by
  have hoptions : (is.map some).Pairwise
      (fun a b : Option Int => ∀ i j, a = some i → b = some j → i ≤ j) := by
    rw [List.pairwise_map]
    refine hs.imp ?_
    rintro a b hab i j hi hj
    cases hi
    cases hj
    exact hab
  rw [← h, List.pairwise_map] at hoptions
  exact hoptions

set_option maxRecDepth 20000 in
theorem steady_clock_sample :
    (outcomes true [] (preparingCalls (lit "2026-01-01T00:00:00.25Z") (lit "2026-01-01T00:00:00.5Z"))).map
        (fun r => r.toOption.isSome) = [true, true, true] ∧
      ∀ r ∈ outcomes true []
        (preparingCalls (lit "2026-01-01T00:00:00.25Z") (lit "2026-01-01T00:00:00.5Z")),
        r ≠ .error movedBackwards := by
  refine ⟨by decide +kernel, ?_⟩
  apply steady_clock_not_rejected
  · have hinstants : (preparingCalls (lit "2026-01-01T00:00:00.25Z")
        (lit "2026-01-01T00:00:00.5Z")).map (fun c => instant? c.1) =
        [63902822400000000, 63902822400250000, 63902822400500000].map some := by decide
    exact steady_of_instants hinstants (by decide)
  · refine ⟨?_, ?_, ?_, trivial⟩
    · intro id s hid
      cases hid
    · exact fresh_of_updated rfl (show _ = some (lit "2026-01-01T00:00:00Z") by decide)
        (by decide)
    · exact fresh_of_updated rfl (show _ = some (lit "2026-01-01T00:00:00.250000Z") by decide)
        (by decide)

set_option maxRecDepth 20000 in
theorem steady_clock_rejected :
    Steady (preparingCalls (lit "2026-01-01T00:00:00Z") (lit "2026-01-01T00:00:00.5Z")) ∧
      ∃ r ∈ outcomes true []
        (preparingCalls (lit "2026-01-01T00:00:00Z") (lit "2026-01-01T00:00:00.5Z")),
        r = .error movedBackwards := by
  refine ⟨?_, ?_⟩
  · have hinstants : (preparingCalls (lit "2026-01-01T00:00:00Z")
        (lit "2026-01-01T00:00:00.5Z")).map (fun c => instant? c.1) =
        [63902822400000000, 63902822400000000, 63902822400500000].map some := by decide
    exact steady_of_instants hinstants (by decide)
  · have hrun : (outcomes true [] (preparingCalls (lit "2026-01-01T00:00:00Z")
        (lit "2026-01-01T00:00:00.5Z"))).any backwards = true := by decide
    obtain ⟨r, hr, hback⟩ := List.any_eq_true.mp hrun
    refine ⟨r, hr, ?_⟩
    cases r with
    | ok t => cases hback
    | error e => exact congrArg Except.error (of_decide_eq_true hback)

end SteadyRuns

end GateRepository

end TraceBackedMemory
