import TraceBackedMemory.Gate.Advancing

namespace TraceBackedMemory

open Text Raising

namespace GateRepository

variable {allow : Bool} {table : GateTable}

section Ends

def Paced (t : Nat) (calls : List (Str × GateCall)) : Prop :=
  ∃ times : List Nat,
    List.Forall₂ (fun (c : Str × GateCall) (i : Nat) => instant? c.1 = some (i : Int)) calls times ∧
    (t :: times).Pairwise (· ≤ ·)

def Ended (table : GateTable) (sessionId : Str) : Prop :=
  ∃ s, selectCurrent table sessionId = .ok s ∧ s.status.terminal = true

def CanEnd (allow : Bool) (table : GateTable) (t : Nat) (sessionId : Str) : Prop :=
  ∃ calls, Paced t calls ∧ Ended (afterCalls allow table calls) sessionId

theorem Paced.readings {t : Nat} {calls : List (Str × GateCall)} (h : Paced t calls) :
    ∀ c ∈ calls, ∃ i : Nat, t ≤ i ∧ instant? c.1 = some (i : Int) := by
  obtain ⟨times, hreadings, hpaced⟩ := h
  intro c hc
  obtain ⟨i, hi, hreading⟩ := exists_of_forall₂ hreadings.flip hc
  exact ⟨i, (List.pairwise_cons.mp hpaced).1 i hi, hreading⟩

theorem Paced.cons {t i : Nat} {reading : Str} {call : GateCall} {calls : List (Str × GateCall)}
    (h : Paced i calls) (hle : t ≤ i) (hreading : instant? reading = some (i : Int)) :
    Paced t ((reading, call) :: calls) := by
  obtain ⟨times, hreadings, hpaced⟩ := h
  refine ⟨i :: times, .cons hreading hreadings, List.pairwise_cons.mpr ⟨?_, hpaced⟩⟩
  intro j hj
  rcases List.mem_cons.mp hj with rfl | hj
  · exact hle
  · exact hle.trans ((List.pairwise_cons.mp hpaced).1 j hj)

theorem Paced.weaken {t i : Nat} {calls : List (Str × GateCall)} (h : Paced i calls) (hle : t ≤ i) :
    Paced t calls := by
  obtain ⟨times, hreadings, hpaced⟩ := h
  obtain ⟨hall, htail⟩ := List.pairwise_cons.mp hpaced
  exact ⟨times, hreadings, List.pairwise_cons.mpr ⟨fun j hj => hle.trans (hall j hj), htail⟩⟩

end Ends

section Stranded

inductive Stranded (s : GateSession) (i : Nat) : Prop
  | created (hstatus : s.status = .created) (hexpired : expires s ≤ i)
  | committed (hstatus : s.status = .decided ∨ s.status = .finalized ∨ s.status = .executing)
      (hlapsed : lease s ≤ i)

theorem Stranded.later {s : GateSession} {i j : Nat} (h : Stranded s i) (hle : i ≤ j) :
    Stranded s j := by
  cases h with
  | created hstatus hexpired => exact .created hstatus (hexpired.trans hle)
  | committed hstatus hlapsed => exact .committed hstatus (hlapsed.trans hle)

theorem Stranded.nonterminal {s : GateSession} {i : Nat} (h : Stranded s i) :
    s.status.terminal = false := by
  cases h with
  | created hstatus _ => rw [hstatus]; rfl
  | committed hstatus _ => rcases hstatus with h | h | h <;> rw [h] <;> rfl

theorem committed_active {s : GateSession}
    (h : s.status = .decided ∨ s.status = .finalized ∨ s.status = .executing) :
    s.status.activeLease = true ∧ .expired ∉ s.status.allowedTransitions := by
  rcases h with h | h | h <;> rw [h] <;> decide

theorem trustedAfter_instant {reading now : Str} {s : GateSession} {i : Nat}
    (hreading : instant? reading = some (i : Int)) (h : trustedAfter reading s.updatedAt = .ok now) :
    ∃ n, i ≤ n ∧ n ≤ maxInstant ∧ now = isoformat n := by
  obtain ⟨r, p, hr, -, hle, ⟨n, hn, rfl⟩, hinstant⟩ := trustedAfter_eq_ok h
  obtain rfl : r = i := Option.some.inj (hr.symm.trans hreading)
  rw [instant_isoformat hn] at hinstant
  have heq := Option.some.inj hinstant
  refine ⟨n, ?_, hn, rfl⟩
  split at heq
  · omega
  · omega

theorem transitionStored_live {t : GateTable} {reading sessionId : Str} {target : GateSessionStatus}
    {v : Nat} {lease : Option Int} {f : TransitionFields} {next : GateSession}
    (h : transitionStored allow table reading sessionId target v lease f = .ok (next, t)) :
    ∃ current now, selectCurrent table sessionId = .ok current ∧
      trustedAfter reading current.updatedAt = .ok now ∧
      requireLiveTransition current now target = .ok () := by
  simp only [transitionStored, bind_eq_ok, exists_unit] at h
  obtain ⟨-, current, hcurrent, now, hnow, hlive, -⟩ := h
  exact ⟨current, now, hcurrent, hnow, hlive⟩

theorem Stranded.refuses_transition (h : Stored table) {s : GateSession} (hs : s ∈ currents table)
    {i : Nat} (hstranded : Stranded s i) {reading : Str} (hreading : instant? reading = some (i : Int))
    {t : GateTable} {target : GateSessionStatus} {v : Nat} {seconds : Option Int}
    {f : TransitionFields} {next : GateSession} :
    transitionStored allow table reading s.sessionId target v seconds f ≠ .ok (next, t) := by
  intro hok
  obtain ⟨current, now, hcurrent, hnow, hlive⟩ := transitionStored_live hok
  obtain ⟨current', now', leaseText, hcurrent', hnow', -, hnext, -⟩ := transitionStored_eq_ok hok
  have hselect : selectCurrent table s.sessionId = .ok s := (selectCurrent_iff h).mpr ⟨hs, rfl⟩
  obtain rfl : current = s := Except.ok.inj (hcurrent.symm.trans hselect)
  obtain rfl : current' = current := Except.ok.inj (hcurrent'.symm.trans hselect)
  have hedge := (GateSession.transition_eq_ok.mp hnext).2.1
  obtain ⟨n, hin, hn, rfl⟩ := trustedAfter_instant hreading hnow
  obtain ⟨e, he, hes⟩ := mem_currents hs
  have htimes : CanonicalTimes current' := hes ▸ h.times e he
  rcases (requireLiveTransition_iff htimes hn).mp hlive with rfl | ⟨hbefore, hheld⟩
  · cases hstranded with
    | created hstatus _ =>
      rw [hstatus] at hedge
      exact absurd hedge (by decide)
    | committed hstatus _ => exact (committed_active hstatus).2 hedge
  · cases hstranded with
    | created _ hexpired => omega
    | committed hstatus hlapsed =>
      have hleased := h.leased hs (committed_active hstatus).1
      obtain ⟨text, htext, hinstant⟩ := hleased.lease_instant
      obtain ⟨l, hl, hlt⟩ := hheld text htext
      have heq := hleased.lease_eq_of htext hl
      omega

theorem Stranded.refuses_renewal (h : Stored table) {s : GateSession} (hs : s ∈ currents table)
    {i : Nat} (hstranded : Stranded s i) {reading : Str} (hreading : instant? reading = some (i : Int))
    {t : GateTable} {v : Nat} {seconds : Int} {next : GateSession} :
    renewStoredLease table reading s.sessionId v seconds ≠ .ok (next, t) := by
  intro hok
  obtain ⟨current, now, leaseText, hcurrent, hnow, -, hnext, -⟩ := renewStoredLease_eq_ok hok
  have hselect : selectCurrent table s.sessionId = .ok s := (selectCurrent_iff h).mpr ⟨hs, rfl⟩
  obtain rfl : current = s := Except.ok.inj (hcurrent.symm.trans hselect)
  obtain ⟨-, hactive, ⟨l, -, u, -, hl, -, hu, -, -, hlt, -⟩, -⟩ := GateSession.renewLease_eq_ok.mp hnext
  cases hstranded with
  | created hstatus _ =>
    rw [hstatus] at hactive
    cases hactive
  | committed hstatus hlapsed =>
    obtain ⟨n, hin, hn, rfl⟩ := trustedAfter_instant hreading hnow
    have hleased := h.leased hs hactive
    obtain ⟨text, htext, hinstant⟩ := hleased.lease_instant
    rw [htext, Option.bind_some, hinstant] at hl
    rw [instant_isoformat hn] at hu
    have hleq := Option.some.inj hl
    have hueq := Option.some.inj hu
    omega

theorem mem_currents_of_other {s current next : GateSession}
    (hs : s ∈ currents table) (hcurrent : current ∈ currents table)
    (hid : next.sessionId = current.sessionId) (hne : current.sessionId ≠ s.sessionId) :
    s ∈ currents (appendRevision table next) := by
  refine (mem_currents_appendRevision ⟨current, hcurrent, hid.symm⟩).mpr (.inr ⟨hs, ?_⟩)
  rw [hid]
  exact hne.symm

-- a stranded session is left alone by every call, whichever session the call names
theorem Stranded.kept (h : Stored table) {s : GateSession} (hs : s ∈ currents table) {i : Nat}
    (hstranded : Stranded s i) {reading : Str} (hreading : instant? reading = some (i : Int))
    (call : GateCall) : s ∈ currents (settled table (call.perform allow table reading)) := by
  cases hcall : call.perform allow table reading with
  | error e => exact hs
  | ok t =>
    show s ∈ currents t
    cases call with
    | createOrGet identity seconds =>
      obtain ⟨⟨r, u⟩, hr, rfl⟩ := map_eq_ok.mp hcall
      obtain ⟨-, -, -, -, -, -, rfl | ⟨rfl, -⟩⟩ := createOrGet_eq_ok hr
      · exact hs
      · rw [currents, List.map_append]
        exact List.mem_append_left _ hs
    | transition sessionId target v seconds f =>
      obtain ⟨⟨next, u⟩, hr, rfl⟩ := map_eq_ok.mp hcall
      obtain ⟨current, now, leaseText, hcurrent, -, -, hnext, rfl⟩ := transitionStored_eq_ok hr
      obtain ⟨hmem, hid⟩ := (selectCurrent_iff h).mp hcurrent
      have hrecord := (GateSession.transition_eq_ok.mp hnext).2.2.2.2
      have hsame : next.sessionId = current.sessionId := by rw [hrecord]; rfl
      refine mem_currents_of_other hs hmem hsame ?_
      intro heq
      rw [← hid, heq] at hr
      exact hstranded.refuses_transition h hs hreading hr
    | renewLease sessionId v seconds =>
      obtain ⟨⟨next, u⟩, hr, rfl⟩ := map_eq_ok.mp hcall
      obtain ⟨current, now, leaseText, hcurrent, -, -, hnext, rfl⟩ := renewStoredLease_eq_ok hr
      obtain ⟨hmem, hid⟩ := (selectCurrent_iff h).mp hcurrent
      have hrecord := (GateSession.renewLease_eq_ok.mp hnext).2.2.2
      have hsame : next.sessionId = current.sessionId := by rw [hrecord]; rfl
      refine mem_currents_of_other hs hmem hsame ?_
      intro heq
      rw [← hid, heq] at hr
      exact hstranded.refuses_renewal h hs hreading hr
    | listDue limit =>
      obtain ⟨-, -, rfl⟩ := map_eq_ok.mp hcall
      exact hs

theorem Stranded.kept_by_run (h : Stored table) {s : GateSession} (hs : s ∈ currents table) {t : Nat}
    (hstranded : Stranded s t) (calls : List (Str × GateCall))
    (hcalls : ∀ c ∈ calls, ∃ i : Nat, t ≤ i ∧ instant? c.1 = some (i : Int)) :
    s ∈ currents (afterCalls allow table calls) := by
  induction calls generalizing table with
  | nil => exact hs
  | cons c l ih =>
    obtain ⟨i, hle, hreading⟩ := hcalls c List.mem_cons_self
    exact ih (h.settled c.1 c.2) ((hstranded.later hle).kept h hs hreading c.2)
      (fun d hd => hcalls d (List.mem_cons_of_mem c hd))

theorem Stranded.not_canEnd (h : Stored table) {s : GateSession} (hs : s ∈ currents table) {t : Nat}
    (hstranded : Stranded s t) : ¬CanEnd allow table t s.sessionId := by
  rintro ⟨calls, hpaced, s', hselect, hterminal⟩
  have hkept : s ∈ currents (afterCalls allow table calls) :=
    hstranded.kept_by_run h hs calls hpaced.readings
  obtain ⟨hmem, hid⟩ := (selectCurrent_iff (h.afterCalls calls)).mp hselect
  obtain rfl : s' = s := (h.afterCalls calls).session_unique hmem hkept hid
  rw [hstranded.nonterminal] at hterminal
  cases hterminal

end Stranded

section Leaving

theorem lastUpdate_advanced {s next : GateSession} {target : GateSessionStatus} {i : Nat}
    {f : TransitionFields} (hi : i ≤ maxInstant)
    (h : next.toGateSessionRecord = s.advanced target (isoformat i) f) : lastUpdate next = i := by
  rw [lastUpdate, h]
  show micros (isoformat i) = i
  rw [micros, instant_isoformat hi]
  rfl

theorem lease_advanced {s next : GateSession} {target : GateSessionStatus} {now : Str}
    {f : TransitionFields} (hf : f.leaseExpiresAt = none) (htarget : target.terminal = false)
    (h : next.toGateSessionRecord = s.advanced target now f) : lease next = lease s := by
  have hrecord : next.leaseExpiresAt = s.leaseExpiresAt := by
    rw [h]
    simp [GateSession.advanced, hf, htarget]
  rw [lease, lease, hrecord]

structure Stepped (allow : Bool) (table : GateTable) (s next : GateSession) (i : Nat)
    (target : GateSessionStatus) (f : TransitionFields) : Prop where
  record : next.toGateSessionRecord = s.advanced target (isoformat i) f
  performs : (GateCall.transition s.sessionId target s.version none f).perform allow table
    (isoformat i) = .ok (appendRevision table next)

theorem Stepped.stored {s next : GateSession} {i : Nat} {target : GateSessionStatus}
    {f : TransitionFields} (h : Stepped allow table s next i target f) (hstored : Stored table) :
    Stored (appendRevision table next) := hstored.perform h.performs

theorem Stepped.current {s next : GateSession} {i : Nat} {target : GateSessionStatus}
    {f : TransitionFields} (h : Stepped allow table s next i target f) (hs : s ∈ currents table) :
    next ∈ currents (appendRevision table next) ∧ next.sessionId = s.sessionId := by
  have hid : next.sessionId = s.sessionId := by
    rw [h.record]
    rfl
  exact ⟨(mem_currents_appendRevision ⟨s, hs, hid.symm⟩).mpr (.inl rfl), hid⟩

theorem Stepped.ends {s next : GateSession} {i t : Nat} {target : GateSessionStatus}
    {f : TransitionFields} (h : Stepped allow table s next i target f) (hstored : Stored table)
    (hs : s ∈ currents table) (hi : i ≤ maxInstant) (hle : t ≤ i) (hterminal : target.terminal = true) :
    CanEnd allow table t s.sessionId := by
  refine ⟨[(isoformat i, .transition s.sessionId target s.version none f)],
    Paced.cons ⟨[], .nil, List.pairwise_singleton _ _⟩ hle (instant_isoformat hi), next, ?_, ?_⟩
  · show selectCurrent (settled table _) s.sessionId = .ok next
    rw [h.performs]
    exact (selectCurrent_iff (h.stored hstored)).mpr (h.current hs)
  · rw [h.record]
    exact hterminal

theorem Stepped.continues {s next : GateSession} {i j t : Nat} {target : GateSessionStatus}
    {f : TransitionFields} (h : Stepped allow table s next i target f) (hs : s ∈ currents table)
    (hi : i ≤ maxInstant) (hle : t ≤ i) (hij : i ≤ j)
    (hnext : CanEnd allow (appendRevision table next) j next.sessionId) :
    CanEnd allow table t s.sessionId := by
  obtain ⟨calls, hpaced, hended⟩ := hnext
  refine ⟨(isoformat i, .transition s.sessionId target s.version none f) :: calls,
    Paced.cons (hpaced.weaken hij) hle (instant_isoformat hi), ?_⟩
  show Ended (afterCalls allow (settled table _) calls) s.sessionId
  rw [h.performs, ← (h.current hs).2]
  exact hended

theorem stepped_of (hstored : Stored table) {s next : GateSession} (hs : s ∈ currents table) {i : Nat}
    (hi : i ≤ maxInstant) (hlt : lastUpdate s < i) {target : GateSessionStatus}
    (htarget : target ≠ .completed)
    (hlive : requireLiveTransition s (isoformat i) target = .ok ()) {f : TransitionFields}
    (hlease : f.leaseExpiresAt = none)
    (hnext : s.transition target s.version (isoformat i) f = .ok next) :
    Stepped allow table s next i target f := by
  refine ⟨(GateSession.transition_eq_ok.mp hnext).2.2.2.2, ?_⟩
  show Prod.snd <$> transitionStored allow table (isoformat i) s.sessionId target s.version none f = _
  rw [transitionStored_of_session hstored hs hi (instant_isoformat hi) hlt htarget hlive hlease hnext]
  rfl

def closingReason : Str := lit "session_expired"

theorem closingReason_ok : requiredReason closingReason (lit "terminal_reason") = .ok () := by
  decide

theorem requireLive_leased {s : GateSession} (h : CanonicalTimes s) (hleased : Leased s) {i : Nat}
    (hlt : i < lease s) (target : GateSessionStatus) :
    requireLiveTransition s (isoformat i) target = .ok () := by
  have hle := hleased.lease_le
  have hmax := hleased.expires_le
  refine (requireLiveTransition_iff h (by omega)).mpr (.inr ⟨by omega, ?_⟩)
  intro text htext
  obtain ⟨text', htext', hinstant⟩ := hleased.lease_instant
  obtain rfl : text = text' := Option.some.inj (htext.symm.trans htext')
  exact ⟨_, hinstant, by omega⟩

theorem before_lease {s : GateSession} (hleased : Leased s) {i : Nat} (hi : i ≤ maxInstant)
    (hlt : i < lease s) : ∀ text, s.leaseExpiresAt = some text → ∀ l n, instant? text = some l →
      instant? (isoformat i) = some n → n < l := by
  intro text htext l n hl hn
  have hleq := hleased.lease_eq_of htext hl
  rw [instant_isoformat hi] at hn
  have hneq := Option.some.inj hn
  omega

theorem canonical_of_current (h : Stored table) {s : GateSession} (hs : s ∈ currents table) :
    CanonicalTimes s := by
  obtain ⟨e, he, rfl⟩ := mem_currents hs
  exact h.times e he

theorem canEnd_open (hstored : Stored table) {s : GateSession} (hs : s ∈ currents table)
    (hstatus : s.status = .prepared ∨ s.status = .awaitingDecision) {t : Nat} (ht : t ≤ maxInstant) :
    CanEnd allow table t s.sessionId := by
  have htimes := canonical_of_current hstored hs
  have hactive : s.status.activeLease = true := by
    rcases hstatus with h | h <;> rw [h] <;> rfl
  have hleased := hstored.leased hs hactive
  have hupdated := updated_lt_lease htimes hleased
  have hlease := hleased.lease_le
  have hi : max t (expires s) ≤ maxInstant := Nat.max_le.mpr ⟨ht, hleased.expires_le⟩
  have hlt : lastUpdate s < max t (expires s) := by omega
  have hcloses : GateSession.Closes s.status .expired := by
    rcases hstatus with h | h
    · rw [h]
      exact .expirePrepared
    · rw [h]
      exact .expireAwaiting
  obtain ⟨next, hnext, -⟩ := GateSession.exists_closing hcloses closingReason_ok
    (checkTransitionTimes_at htimes hi hlt (by rintro ⟨⟩) (fun _ => Nat.le_max_right t (expires s)))
  have hstep : Stepped allow table s next (max t (expires s)) .expired (GateSession.closing closingReason) :=
    stepped_of hstored hs hi hlt (by decide)
      ((requireLiveTransition_iff htimes hi).mpr (.inl rfl)) rfl hnext
  exact hstep.ends hstored hs hi (Nat.le_max_left t (expires s)) rfl

theorem canEnd_created (hstored : Stored table) {s : GateSession} (hs : s ∈ currents table)
    (hstatus : s.status = .created) {t : Nat} (hlt : lastUpdate s < t) (hbefore : t < expires s) :
    CanEnd allow table t s.sessionId := by
  have htimes := canonical_of_current hstored hs
  have hmax := (instant_of_canonical htimes.expires).2
  have ht : t ≤ maxInstant := hbefore.le.trans hmax
  have hcloses : GateSession.Closes s.status .canceled := by
    rw [hstatus]
    exact .cancelCreated
  have hnone : s.leaseExpiresAt = none := by
    have hshape := s.statusShape.2.1
    simp only [GateSessionRecord.checkLeasePresence, hstatus] at hshape
    have habsent : ¬s.leaseExpiresAt.isSome = true := raiseIf_eq_ok.mp hshape
    simpa using habsent
  obtain ⟨next, hnext, -⟩ := GateSession.exists_closing hcloses closingReason_ok
    (checkTransitionTimes_at htimes ht hlt (by rintro ⟨⟩) (by rintro ⟨⟩))
  have hlive : requireLiveTransition s (isoformat t) .canceled = .ok () := by
    refine (requireLiveTransition_iff htimes ht).mpr (.inr ⟨hbefore, ?_⟩)
    rw [hnone]
    rintro _ ⟨⟩
  have hstep : Stepped allow table s next t .canceled (GateSession.closing closingReason) :=
    stepped_of hstored hs ht hlt (by decide) hlive rfl hnext
  exact hstep.ends hstored hs ht le_rfl rfl

theorem canEnd_executing (hstored : Stored table) {s : GateSession} (hs : s ∈ currents table)
    (hstatus : s.status = .executing) {t : Nat} (hlt : lastUpdate s < t) (hheld : t < lease s) :
    CanEnd allow table t s.sessionId := by
  have htimes := canonical_of_current hstored hs
  have hleased := hstored.leased hs (by rw [hstatus]; rfl)
  have ht : t ≤ maxInstant := hheld.le.trans hleased.lease_max
  have hcloses : GateSession.Closes s.status .abandoned := by
    rw [hstatus]
    exact .abandon
  obtain ⟨next, hnext, -⟩ := GateSession.exists_closing hcloses closingReason_ok
    (checkTransitionTimes_at htimes ht hlt (by rintro ⟨⟩) (by rintro ⟨⟩))
  have hstep : Stepped allow table s next t .abandoned (GateSession.closing closingReason) :=
    stepped_of hstored hs ht hlt (by decide) (requireLive_leased htimes hleased hheld _) rfl hnext
  exact hstep.ends hstored hs ht le_rfl rfl

theorem canEnd_finalized (hstored : Stored table) {s : GateSession} (hs : s ∈ currents table)
    (hstatus : s.status = .finalized) {t : Nat} (hlt : lastUpdate s < t) (hheld : t + 1 < lease s) :
    CanEnd allow table t s.sessionId := by
  have htimes := canonical_of_current hstored hs
  have hleased := hstored.leased hs (by rw [hstatus]; rfl)
  have hmax := hleased.lease_max
  have hle := hleased.lease_le
  have ht : t ≤ maxInstant := by omega
  obtain ⟨next, hnext, hrecord⟩ := GateSession.exists_executing hstatus
    (checkTransitionTimes_at htimes ht hlt (fun _ => by omega) (by rintro ⟨⟩))
    (before_lease hleased ht (by omega))
  have hstep : Stepped allow table s next t .executing {} :=
    stepped_of hstored hs ht hlt (by decide) (requireLive_leased htimes hleased (by omega) _) rfl hnext
  refine hstep.continues hs ht le_rfl (Nat.le_add_right t 1)
    (canEnd_executing (hstep.stored hstored) (hstep.current hs).1 (by rw [hrecord]; rfl) ?_ ?_)
  · rw [lastUpdate_advanced ht hrecord]
    exact Nat.lt_succ_self t
  · rw [lease_advanced rfl rfl hrecord]
    exact hheld

def sampleArtifact : Str := lit "artifact-1"

def sampleUsage : Str := lit "usage-1"

theorem canEnd_decided (hstored : Stored table) {s : GateSession} (hs : s ∈ currents table)
    (hstatus : s.status = .decided) {t : Nat} (hlt : lastUpdate s < t) (hheld : t + 2 < lease s) :
    CanEnd allow table t s.sessionId := by
  have htimes := canonical_of_current hstored hs
  have hleased := hstored.leased hs (by rw [hstatus]; rfl)
  have hmax := hleased.lease_max
  have hle := hleased.lease_le
  have ht : t ≤ maxInstant := by omega
  have hartifact : requiredIdentifier sampleArtifact (lit "injection_artifact_id") = .ok () := by
    decide
  have husage : requiredIdentifier sampleUsage (lit "usage_decision_id") = .ok () := by
    decide
  obtain ⟨next, hnext, hrecord⟩ := GateSession.exists_finalizing hstatus hartifact husage
    (checkTransitionTimes_at htimes ht hlt (fun _ => by omega) (by rintro ⟨⟩))
    (before_lease hleased ht (by omega))
  have hstep : Stepped allow table s next t .finalized
      (GateSession.finalizing sampleArtifact sampleUsage) :=
    stepped_of hstored hs ht hlt (by decide) (requireLive_leased htimes hleased (by omega) _) rfl hnext
  refine hstep.continues hs ht le_rfl (Nat.le_add_right t 1)
    (canEnd_finalized (hstep.stored hstored) (hstep.current hs).1 (by rw [hrecord]; rfl) ?_ ?_)
  · rw [lastUpdate_advanced ht hrecord]
    exact Nat.lt_succ_self t
  · rw [lease_advanced rfl rfl hrecord]
    exact hheld

end Leaving

section Main

def committed (status : GateSessionStatus) : Prop :=
  status = .decided ∨ status = .finalized ∨ status = .executing

theorem gate_session_exits (table : GateTable) (hreach : Reachable table) (allow : Bool)
    (s : GateSession) (hs : s ∈ currents table) (t : Nat) (hlater : lastUpdate s < t)
    (ht : t ≤ maxInstant) :
    (s.status = .prepared ∨ s.status = .awaitingDecision → CanEnd allow table t s.sessionId) ∧
      (s.status = .created → (CanEnd allow table t s.sessionId ↔ t < expires s)) ∧
      (committed s.status → (t + 2 < lease s → CanEnd allow table t s.sessionId) ∧
        (lease s ≤ t → ¬CanEnd allow table t s.sessionId)) := by
  have hstored := hreach.stored
  refine ⟨?_, ?_, ?_⟩
  · intro hstatus
    exact canEnd_open hstored hs hstatus ht
  · intro hstatus
    refine ⟨?_, canEnd_created hstored hs hstatus hlater⟩
    intro hend
    by_contra hexpired
    exact (Stranded.created hstatus (not_lt.mp hexpired)).not_canEnd hstored hs hend
  · intro hstatus
    refine ⟨?_, fun hlapsed => (Stranded.committed hstatus hlapsed).not_canEnd hstored hs⟩
    intro hheld
    rcases hstatus with hstatus | hstatus | hstatus
    · exact canEnd_decided hstored hs hstatus hlater hheld
    · exact canEnd_finalized hstored hs hstatus hlater (by omega)
    · exact canEnd_executing hstored hs hstatus hlater (by omega)

def createdCalls : List (Str × GateCall) :=
  [(lit "2026-01-01T00:00:00Z", .createOrGet sampleIdentity 3600)]

def createdTable : GateTable := afterCalls true [] createdCalls

theorem createdTable_reachable : Reachable createdTable := ⟨true, createdCalls, rfl⟩

def createdSessions : List (GateSessionStatus × Nat × Nat) :=
  (currents createdTable).map (fun s => (s.status, lastUpdate s, expires s))

set_option maxRecDepth 20000 in
theorem createdSessions_eq : createdSessions =
    [(.created, micros (lit "2026-01-01T00:00:00Z"), micros (lit "2026-01-01T01:00:00Z"))] := by
  decide +kernel

theorem createdTable_session : ∃ s ∈ currents createdTable, s.status = .created ∧
    lastUpdate s = micros (lit "2026-01-01T00:00:00Z") ∧
    expires s = micros (lit "2026-01-01T01:00:00Z") := by
  have hmem : (GateSessionStatus.created, micros (lit "2026-01-01T00:00:00Z"),
      micros (lit "2026-01-01T01:00:00Z")) ∈ createdSessions := by
    rw [createdSessions_eq]
    exact List.mem_singleton_self _
  obtain ⟨s, hs, heq⟩ := List.mem_map.mp hmem
  obtain ⟨hstatus, hrest⟩ := Prod.mk.inj heq
  obtain ⟨hupdate, hexpires⟩ := Prod.mk.inj hrest
  exact ⟨s, hs, hstatus, hupdate, hexpires⟩

theorem gate_session_exit_before_expiry : ∃ s ∈ currents createdTable, s.status = .created ∧
    CanEnd false createdTable (micros (lit "2026-01-01T00:30:00Z")) s.sessionId := by
  obtain ⟨s, hs, hstatus, hupdate, hexpires⟩ := createdTable_session
  refine ⟨s, hs, hstatus, ?_⟩
  have hlater : lastUpdate s < micros (lit "2026-01-01T00:30:00Z") := by
    rw [hupdate]
    decide
  refine ((gate_session_exits createdTable createdTable_reachable false s hs _ hlater
    (by decide)).2.1 hstatus).mpr ?_
  rw [hexpires]
  decide

theorem gate_session_stranded_after_expiry : Reachable createdTable ∧
    ∃ s ∈ currents createdTable, s.status = .created ∧ s.status.terminal = false ∧
      lastUpdate s < micros (lit "2026-01-01T01:00:00Z") ∧
      ∀ allow, ¬CanEnd allow createdTable (micros (lit "2026-01-01T01:00:00Z")) s.sessionId := by
  obtain ⟨s, hs, hstatus, hupdate, hexpires⟩ := createdTable_session
  refine ⟨createdTable_reachable, s, hs, hstatus, by rw [hstatus]; rfl, ?_, ?_⟩
  · rw [hupdate]
    decide
  · intro allow
    exact (Stranded.created hstatus hexpires.le).not_canEnd createdTable_reachable.stored hs

end Main

end GateRepository

end TraceBackedMemory
