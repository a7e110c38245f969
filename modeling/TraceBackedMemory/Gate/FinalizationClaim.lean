import TraceBackedMemory.Gate.Exits
import TraceBackedMemory.Outbox.Delivery

namespace TraceBackedMemory

open Text Raising

namespace GateRepository

section Claim

structure FinalizationRequest where
  expectedSessionVersion : Nat
  leaseSeconds : Nat
  version_pos : 1 ≤ expectedSessionVersion
  lease_range : 1 ≤ leaseSeconds ∧ leaseSeconds ≤ maxLeaseSeconds

def finalizationError (code message : String) : GateError := ⟨.contract, lit code, lit message⟩

def changedCode : Str := lit "TBM_DURABLE_FINALIZATION_SESSION_CHANGED"

def sessionChanged : GateError :=
  ⟨.contract, changedCode, lit "GateSession does not match the expected revision"⟩

def leaseUnclaimed : GateError :=
  ⟨.contract, changedCode, lit "GateSession could not claim a live finalization lease"⟩

def invalidLeaseReceipt : GateError :=
  finalizationError "TBM_DURABLE_FINALIZATION_SESSION_RECEIPT_INVALID"
    "GateSession authority returned an invalid lease receipt"

def loadSession (table : GateTable) (sessionId : Str) : Except GateError GateSession :=
  match selectCurrent table sessionId with
  | .error _ => .error (finalizationError "TBM_DURABLE_FINALIZATION_SESSION_UNAVAILABLE"
      "GateSession is unavailable")
  | .ok session => do
    raiseIf (session.sessionId ≠ sessionId)
      (finalizationError "TBM_DURABLE_FINALIZATION_SESSION_RECEIPT_INVALID"
        "GateSession authority returned an invalid receipt")
    return session

def trustedTime (reading : Str) : Except GateError Str :=
  match canonicalRfc3339 reading with
  | .error _ => .error (finalizationError "TBM_DURABLE_FINALIZATION_CLOCK_INVALID"
      "trusted finalization clock returned an invalid timestamp")
  | .ok now => .ok now

def unrenewed (session claimed : GateSession) : GateSessionRecord :=
  { claimed.toGateSessionRecord with
    version := session.version
    updatedAt := session.updatedAt
    leaseExpiresAt := session.leaseExpiresAt }

def verifyClaimed (session claimed : GateSession) (table : GateTable) :
    Except GateError GateSession := do
  raiseIf (claimed.sessionId ≠ session.sessionId ∨ claimed.version ≠ session.version + 1 ∨
    claimed.status ≠ .decided ∨ claimed.leaseExpiresAt = session.leaseExpiresAt) invalidLeaseReceipt
  let original ← (unrenewed session claimed).build
  raiseIf (original ≠ session) invalidLeaseReceipt
  let current ← loadSession table claimed.sessionId
  raiseIf (current ≠ claimed) invalidLeaseReceipt
  return claimed

def claimDecisionLease (reading : Str) (session : GateSession) (leaseSeconds : Int) :
    Program GateError GateTable GateSession := fun table =>
  match renewStoredLease table reading session.sessionId session.version leaseSeconds with
  | .error _ => .error leaseUnclaimed table
  | .ok (claimed, next) => inspect (verifyClaimed session claimed) next

def historyOf (table : GateTable) (sessionId : Str) : Except GateError (List GateSession) :=
  demand ((table.find? (fun e => decide (e.current.sessionId = sessionId))).map
    (fun e => e.superseded.reverse ++ [e.current])) sessionNotFound

def verifyRenewal (expectedVersion : Nat) (session previous : GateSession) (now : Int) :
    Except GateError Unit := do
  raiseIf (previous.version ≠ expectedVersion ∨ previous.status ≠ .decided ∨
    session.status ≠ .decided) sessionChanged
  match previous.leaseExpiresAt, session.leaseExpiresAt with
  | some previousText, some text => do
    raiseIf (text = previousText) sessionChanged
    let updated ← GateSession.instant session.updatedAt
    let previousUpdated ← GateSession.instant previous.updatedAt
    raiseIf (updated ≤ previousUpdated) sessionChanged
    let lease ← GateSession.instant text
    let previousLease ← GateSession.instant previousText
    raiseIf (lease ≤ previousLease) sessionChanged
    raiseIf (now < updated) sessionChanged
    raiseIf (lease ≤ now) sessionChanged
    let expires ← GateSession.instant session.expiresAt
    raiseIf (expires ≤ now) sessionChanged
    let original ← (unrenewed previous session).build
    raiseIf (original ≠ previous) sessionChanged
  | _, _ => .error sessionChanged

def recoverDecisionLease (reading : Str) (session : GateSession) (request : FinalizationRequest)
    (table : GateTable) : Except GateError GateSession := do
  raiseIf (session.version ≠ request.expectedSessionVersion + 1) sessionChanged
  match historyOf table session.sessionId with
  | .error _ => .error sessionChanged
  | .ok history => do
    raiseIf (history.length < 2 ∨ history.getLast? ≠ some session) sessionChanged
    let previous ← demand history.dropLast.getLast? sessionChanged
    let text ← trustedTime reading
    let now ← GateSession.instant text
    verifyRenewal request.expectedSessionVersion session previous now
    return session

-- the interpreter's own recursion limit stands behind the depth
def claimOrRecoverDecisionLease (reading : Str) (request : FinalizationRequest) :
    Nat → GateSession → Program GateError GateTable GateSession
  | 0, _ => fun table => .error (finalizationError "RecursionError" "") table
  | depth + 1, session => fun table =>
    if session.version = request.expectedSessionVersion then
      match claimDecisionLease reading session request.leaseSeconds table with
      | .ok claimed t => .ok claimed t
      | .error e t =>
        if e.code ≠ changedCode then .error e t
        else
          match loadSession t session.sessionId with
          | .error _ => .error e t
          | .ok current =>
            if current = session then .error e t
            else claimOrRecoverDecisionLease reading request depth current t
    else inspect (recoverDecisionLease reading session request) table

end Claim

section Revisions

variable {allow : Bool} {table t : GateTable}

def Linked (table : GateTable) : Prop :=
  ∀ e ∈ table, ∀ p older, e.superseded = p :: older → ∃ a : SessionAction, a.perform p = .ok e.current

theorem Linked.appendRevision (h : Linked table) {next : GateSession}
    (hstep : ∀ e ∈ table, e.current.sessionId = next.sessionId →
      ∃ a : SessionAction, a.perform e.current = .ok next) : Linked (appendRevision table next) := by
  intro e he p older hchain
  obtain ⟨d, hd, rfl⟩ := List.mem_map.mp he
  split at hchain
  · rename_i hid
    rw [if_pos hid]
    cases hchain
    exact hstep d hd hid
  · rename_i hid
    rw [if_neg hid]
    exact h d hd p older hchain

theorem Stored.entry_unique (h : Stored table) {d e : SessionEntry} (hd : d ∈ table) (he : e ∈ table)
    (hid : d.current.sessionId = e.current.sessionId) : d = e :=
  List.inj_on_of_nodup_map h.ids hd he hid

theorem Linked.perform (h : Linked table) (hstored : Stored table) {reading : Str} {call : GateCall}
    (hcall : call.perform allow table reading = .ok t) : Linked t := by
  have step {current next : GateSession} {sessionId : Str} {a : SessionAction}
      (hcurrent : selectCurrent table sessionId = .ok current) (ha : a.perform current = .ok next)
      (hid : next.sessionId = current.sessionId) :
      Linked (GateRepository.appendRevision table next) := by
    obtain ⟨e, he, rfl, -⟩ := selectCurrent_eq_ok hcurrent
    refine h.appendRevision ?_
    intro d hd hsame
    rw [hstored.entry_unique hd he (hsame.trans hid)]
    exact ⟨a, ha⟩
  cases call with
  | createOrGet i seconds =>
    obtain ⟨⟨r, u⟩, hr, rfl⟩ := map_eq_ok.mp hcall
    obtain ⟨now, expiresAt, proposed, -, -, -, rfl | ⟨rfl, -⟩⟩ := createOrGet_eq_ok hr
    · exact h
    · intro e he p older hchain
      rcases List.mem_append.mp he with he | he
      · exact h e he p older hchain
      · rw [List.mem_singleton.mp he] at hchain
        cases hchain
  | transition sessionId target v lease f =>
    obtain ⟨⟨next, u⟩, hr, rfl⟩ := map_eq_ok.mp hcall
    obtain ⟨current, now, leaseText, hcurrent, -, -, hnext, rfl⟩ := transitionStored_eq_ok hr
    have hrecord := (GateSession.transition_eq_ok.mp hnext).2.2.2.2
    exact step (a := .transition target v now _) hcurrent hnext (by rw [hrecord]; rfl)
  | renewLease sessionId v seconds =>
    obtain ⟨⟨next, u⟩, hr, rfl⟩ := map_eq_ok.mp hcall
    obtain ⟨current, now, leaseText, hcurrent, -, -, hnext, rfl⟩ := renewStoredLease_eq_ok hr
    have hrecord := (GateSession.renewLease_eq_ok.mp hnext).2.2.2
    exact step (a := .renewLease v now leaseText) hcurrent hnext (by rw [hrecord]; rfl)
  | listDue limit =>
    obtain ⟨-, -, rfl⟩ := map_eq_ok.mp hcall
    exact h

theorem Linked.afterCalls (h : Linked table) (hstored : Stored table) (calls : List (Str × GateCall)) :
    Linked (afterCalls allow table calls) := by
  induction calls generalizing table with
  | nil => exact h
  | cons c l ih =>
    refine ih ?_ (hstored.settled c.1 c.2)
    cases hcall : c.2.perform allow table c.1 with
    | error e => exact h
    | ok t => exact h.perform hstored hcall

theorem Reachable.linked (h : Reachable table) : Linked table := by
  obtain ⟨allow, calls, rfl⟩ := h
  have hempty : Linked [] := fun e he => absurd he List.not_mem_nil
  exact hempty.afterCalls ⟨List.nodup_nil, by simp⟩ calls

theorem historyOf_eq (h : Stored table) {e : SessionEntry} (he : e ∈ table) :
    historyOf table e.current.sessionId = .ok (e.superseded.reverse ++ [e.current]) := by
  have hfound : (table.find? (fun d => decide (d.current.sessionId = e.current.sessionId))).isSome =
      true := List.find?_isSome.mpr ⟨e, he, decide_eq_true rfl⟩
  obtain ⟨d, hd⟩ := Option.isSome_iff_exists.mp hfound
  have hid : d.current.sessionId = e.current.sessionId := by simpa using List.find?_some hd
  obtain rfl : d = e := h.entry_unique (List.mem_of_find?_eq_some hd) he hid
  rw [historyOf, hd]
  rfl

end Revisions

section Renewing

variable {table : GateTable} {s : GateSession} {reading : Str} {t : Nat}

def trustedInstant (s : GateSession) (t : Nat) : Nat := if t = lastUpdate s then t + 1000000 else t

theorem trustedAfter_iff (h : CanonicalTimes s) (ht : t ≤ maxInstant)
    (hreading : instant? reading = some (t : Int)) {now : Str} :
    trustedAfter reading s.updatedAt = .ok now ↔ lastUpdate s ≤ t ∧
      trustedInstant s t ≤ maxInstant ∧ now = isoformat (trustedInstant s t) := by
  constructor
  · intro hnow
    obtain ⟨i, p, hi, hp, hle, ⟨n, hn, rfl⟩, hinstant⟩ := trustedAfter_eq_ok hnow
    obtain rfl : i = t := Option.some.inj (hi.symm.trans hreading)
    obtain rfl : p = lastUpdate s := Option.some.inj (hp.symm.trans h.updated_instant)
    rw [instant_isoformat hn] at hinstant
    have heq : n = trustedInstant s t := by
      have hvalue := Option.some.inj hinstant
      rw [trustedInstant]
      split at hvalue
      · rw [if_pos (by omega)]
        omega
      · rw [if_neg (by omega)]
        omega
    rw [← heq]
    exact ⟨by omega, hn, rfl⟩
  · rintro ⟨hle, hmax, rfl⟩
    by_cases heq : t = lastUpdate s
    · have hnow := trustedNow_of_instant ht hreading
      have hparsed : GateSession.instant (isoformat t) = .ok (t : Int) :=
        GateSession.instant_eq_ok.mpr (instant_isoformat ht)
      have hprevious : GateSession.instant s.updatedAt = .ok (t : Int) := by
        rw [heq]
        exact GateSession.instant_eq_ok.mpr h.updated_instant
      rw [trustedInstant, if_pos heq] at hmax ⊢
      rw [trustedAfter]
      simp only [bind_eq_ok, exists_unit, raiseIf_eq_ok, hnow, hprevious, Except.ok.injEq,
        exists_eq_left', hparsed, lt_irrefl, not_false_eq_true, true_and, if_true, demand_eq_ok]
      exact_mod_cast utcText_of_le hmax
    · rw [trustedInstant, if_neg heq]
      exact trustedAfter_of_later h ht hreading (by omega)

theorem deadline_iff {i : Nat} (hi : i ≤ maxInstant) {n : Nat}
    (hn : 1 ≤ n ∧ n ≤ maxLeaseSeconds) {text : Str} :
    deadline (isoformat i) n maxLeaseSeconds = .ok text ↔
      i + n * 1000000 ≤ maxInstant ∧ text = isoformat (i + n * 1000000) := by
  have hrange : ¬((n : Int) < 1 ∨ (maxLeaseSeconds : Int) < n) := by omega
  have hparsed : GateSession.instant (isoformat i) = .ok (i : Int) :=
    GateSession.instant_eq_ok.mpr (instant_isoformat hi)
  have hsum : (i : Int) + (n : Int) * 1000000 = ((i + n * 1000000 : Nat) : Int) := by omega
  simp only [deadline, bind_eq_ok, exists_unit, raiseIf_eq_ok, hparsed, Except.ok.injEq,
    exists_eq_left', demand_eq_ok, hsum]
  constructor
  · rintro ⟨-, htext⟩
    obtain ⟨⟨j, hj, rfl⟩, hinstant⟩ := utcText_eq_some htext
    rw [instant_isoformat hj] at hinstant
    have heq : j = i + n * 1000000 := by exact_mod_cast Option.some.inj hinstant
    rw [← heq]
    exact ⟨hj, rfl⟩
  · rintro ⟨hmax, rfl⟩
    exact ⟨hrange, utcText_of_le hmax⟩

theorem renewStoredLease_iff (h : Stored table) (hs : s ∈ currents table)
    (hactive : s.status.activeLease = true) (ht : t ≤ maxInstant)
    (hreading : instant? reading = some (t : Int)) {n : Nat} (hn : 1 ≤ n ∧ n ≤ maxLeaseSeconds) :
    (∃ r, renewStoredLease table reading s.sessionId s.version n = .ok r) ↔
      lastUpdate s ≤ t ∧ trustedInstant s t < lease s ∧
        lease s < trustedInstant s t + n * 1000000 ∧
        trustedInstant s t + n * 1000000 ≤ expires s := by
  have htimes := canonical_of_current h hs
  have hleased := h.leased hs hactive
  have hselect : selectCurrent table s.sessionId = .ok s := (selectCurrent_iff h).mpr ⟨hs, rfl⟩
  obtain ⟨held, hheld, hheldAt⟩ := hleased.lease_instant
  have hbind : s.leaseExpiresAt.bind instant? = some (lease s : Int) := by
    rw [hheld]
    exact hheldAt
  have hlast := hleased.expires_le
  constructor
  · rintro ⟨⟨next, u⟩, hok⟩
    obtain ⟨current, now, text, hcurrent, hnow, hlease, hnext, -⟩ := renewStoredLease_eq_ok hok
    obtain rfl : current = s := Except.ok.inj (hcurrent.symm.trans hselect)
    obtain ⟨hle, hmax, rfl⟩ := (trustedAfter_iff htimes ht hreading).mp hnow
    obtain ⟨hbound, rfl⟩ := (deadline_iff hmax hn).mp hlease
    obtain ⟨-, -, ⟨l, m, i, -, hl, hm, hi, -, -, hlive, hextends⟩, hrecord⟩ :=
      GateSession.renewLease_eq_ok.mp hnext
    obtain rfl : l = lease current := Option.some.inj (hl.symm.trans hbind)
    rw [instant_isoformat hbound] at hm
    rw [instant_isoformat hmax] at hi
    obtain rfl := Option.some.inj hm
    obtain rfl := Option.some.inj hi
    refine ⟨hle, by omega, by omega, ?_⟩
    obtain ⟨c, p, e, hnexttimes⟩ := next.times
    obtain ⟨m, hm, -, hle'⟩ := hnexttimes.lease _ (by rw [hrecord]; rfl)
    have hexpires : instant? current.expiresAt = some e := by
      have hsame : next.expiresAt = current.expiresAt := by rw [hrecord]; rfl
      rw [← hsame]
      exact hnexttimes.expires
    obtain rfl : e = expires current := Option.some.inj (hexpires.symm.trans htimes.expires_instant)
    rw [instant_isoformat hbound] at hm
    obtain rfl := Option.some.inj hm
    omega
  · rintro ⟨hle, hlive, hextends, hbound⟩
    have hmax : trustedInstant s t ≤ maxInstant := by omega
    have hend : trustedInstant s t + n * 1000000 ≤ maxInstant := by omega
    have hlater : lastUpdate s < trustedInstant s t := by
      rw [trustedInstant]
      split <;> omega
    have hupdated : ∀ p, instant? s.updatedAt = some p → p < (trustedInstant s t : Int) := by
      intro p hp
      obtain rfl : p = lastUpdate s := Option.some.inj (hp.symm.trans htimes.updated_instant)
      exact_mod_cast hlater
    obtain ⟨next, hnext, -⟩ := GateSession.exists_renewal (s := s) hactive hbind
      (instant_isoformat hend) (instant_isoformat hmax) hupdated htimes.expires_instant
      (by exact_mod_cast hlive) (by exact_mod_cast hextends) (by exact_mod_cast hbound)
    refine ⟨(next, appendRevision table next), ?_⟩
    simp only [renewStoredLease, bind_eq_ok, pure_eq_ok]
    exact ⟨s, hselect, _, (trustedAfter_iff htimes ht hreading).mpr ⟨hle, hmax, rfl⟩, _,
      (deadline_iff hmax hn).mpr ⟨hend, rfl⟩, next, hnext, rfl⟩

end Renewing

theorem version_pos (s : GateSession) : 1 ≤ s.version := by
  obtain ⟨hidentity, -⟩ := GateSessionRecord.check_iff.mp s.valid
  simp only [GateSessionRecord.checkIdentity, bind_eq_ok, exists_unit, raiseIf_eq_ok] at hidentity
  obtain ⟨-, -, -, hversion⟩ := hidentity
  exact Nat.not_lt.mp hversion

section Claiming

variable {table : GateTable} {s : GateSession} {reading : Str} {t : Nat}

def JustRenewed (table : GateTable) (s : GateSession) : Prop :=
  ∃ p older, (⟨s, p :: older⟩ : SessionEntry) ∈ table ∧ p.status = .decided

theorem loadSession_eq (h : Stored table) (hs : s ∈ currents table) :
    loadSession table s.sessionId = .ok s := by
  have hselect : selectCurrent table s.sessionId = .ok s := (selectCurrent_iff h).mpr ⟨hs, rfl⟩
  have hsame : ¬(s.sessionId ≠ s.sessionId) := not_not.mpr rfl
  rw [loadSession, hselect]
  show (do
    raiseIf (s.sessionId ≠ s.sessionId) _
    return s) = Except.ok s
  rw [raiseIf_of_not hsame]
  rfl

theorem unrenewed_eq {next : GateSession} {now text : Str}
    (h : next.toGateSessionRecord = s.renewed now text) : (unrenewed s next).build = .ok s := by
  refine GateSessionRecord.build_eq_ok.mpr ?_
  rw [unrenewed, h]
  rfl

theorem renewed_lease_ne {next : GateSession} {v : Nat} {now text : Str}
    (h : s.renewLease v now text = .ok next) : next.leaseExpiresAt ≠ s.leaseExpiresAt := by
  obtain ⟨-, -, ⟨l, m, -, -, hl, hm, -, -, -, -, hextends⟩, hrecord⟩ :=
    GateSession.renewLease_eq_ok.mp h
  intro hsame
  have htext : next.leaseExpiresAt = some text := by rw [hrecord]; rfl
  rw [← hsame, htext, Option.bind_some, hm] at hl
  have heq := Option.some.inj hl
  omega

theorem verifyClaimed_eq (hstatus : s.status = .decided) {next : GateSession} {v : Nat} {now text : Str}
    (hstored : Stored (appendRevision table next)) (hs : s ∈ currents table)
    (hnext : s.renewLease v now text = .ok next) :
    verifyClaimed s next (appendRevision table next) = .ok next := by
  have hrecord := (GateSession.renewLease_eq_ok.mp hnext).2.2.2
  have hid : next.sessionId = s.sessionId := by rw [hrecord]; rfl
  have hversion : next.version = s.version + 1 := by rw [hrecord]; rfl
  have hdecided : next.status = .decided := by
    rw [hrecord]
    exact hstatus
  have hmem : next ∈ currents (appendRevision table next) :=
    (mem_currents_appendRevision ⟨s, hs, hid.symm⟩).mpr (.inl rfl)
  simp only [verifyClaimed, bind_eq_ok, exists_unit, pure_eq_ok, raiseIf_eq_ok]
  refine ⟨?_, s, unrenewed_eq hrecord, not_not.mpr rfl, next, loadSession_eq hstored hmem,
    not_not.mpr rfl, trivial⟩
  simp only [hid, hversion, hdecided, ne_eq, not_true_eq_false, false_or]
  exact renewed_lease_ne hnext

theorem claimed_iff (h : Stored table) (hs : s ∈ currents table) (hstatus : s.status = .decided)
    {request : FinalizationRequest} (hversion : s.version = request.expectedSessionVersion)
    (depth : Nat) :
    returns (claimOrRecoverDecisionLease reading request (depth + 1) s table) = true ↔
      ∃ r, renewStoredLease table reading s.sessionId s.version request.leaseSeconds = .ok r := by
  simp only [claimOrRecoverDecisionLease, if_pos hversion]
  cases hrenew : renewStoredLease table reading s.sessionId s.version request.leaseSeconds with
  | error e =>
    have hclaim : claimDecisionLease reading s request.leaseSeconds table =
        .error leaseUnclaimed table := by
      rw [claimDecisionLease, hrenew]
    have hcode : ¬leaseUnclaimed.code ≠ changedCode := not_not.mpr rfl
    have hload : loadSession table s.sessionId = .ok s := loadSession_eq h hs
    simp only [hclaim, if_neg hcode, hload, if_true]
    simp [returns]
  | ok r =>
    obtain ⟨next, u⟩ := r
    obtain ⟨current, now, text, hcurrent, -, -, hnext, rfl⟩ := renewStoredLease_eq_ok hrenew
    have hselect : selectCurrent table s.sessionId = .ok s := (selectCurrent_iff h).mpr ⟨hs, rfl⟩
    obtain rfl : current = s := Except.ok.inj (hcurrent.symm.trans hselect)
    have hstored : Stored (appendRevision table next) := by
      have hperform : (GateCall.renewLease current.sessionId current.version
          request.leaseSeconds).perform true table reading = .ok (appendRevision table next) := by
        rw [GateCall.perform, hrenew]
        rfl
      exact h.perform hperform
    have hclaim : claimDecisionLease reading current request.leaseSeconds table =
        .ok next (appendRevision table next) := by
      rw [claimDecisionLease, hrenew]
      exact run_inspect_eq_ok.mpr ⟨verifyClaimed_eq hstatus hstored hs hnext, rfl⟩
    rw [hclaim]
    simp [returns]

theorem trustedTime_eq (ht : t ≤ maxInstant) (hreading : instant? reading = some (t : Int)) :
    trustedTime reading = .ok (isoformat t) := by
  have hcanonical : canonicalRfc3339 reading = .ok (isoformat t) := by
    simp only [canonicalRfc3339, bind_eq_ok, demand_eq_ok, GateSession.instant_eq_ok]
    exact ⟨t, hreading, utcText_of_le ht⟩
  rw [trustedTime, hcanonical]

theorem renewal_of_decided {p : GateSession} {a : SessionAction} (ha : a.perform p = .ok s)
    (hprevious : p.status = .decided) (hstatus : s.status = .decided) :
    ∃ v now text, p.renewLease v now text = .ok s := by
  cases a with
  | transition target v now f =>
    obtain ⟨-, hedge, -, -, hrecord⟩ := GateSession.transition_eq_ok.mp ha
    have htarget : target = .decided := by
      rw [← hstatus, hrecord]
      rfl
    rw [hprevious, htarget] at hedge
    exact absurd hedge (by decide)
  | renewLease v now text => exact ⟨v, now, text, ha⟩

theorem verifyRenewal_iff (htimes : CanonicalTimes s) (hleased : Leased s) (hheld : t < lease s)
    (hstatus : s.status = .decided) {p : GateSession} {a : SessionAction} (ha : a.perform p = .ok s)
    {v : Nat} (hv : v + 1 = s.version) :
    verifyRenewal v s p t = .ok () ↔ p.status = .decided ∧ lastUpdate s ≤ t := by
  have hupdated := htimes.updated_instant
  constructor
  · intro hok
    simp only [verifyRenewal, bind_eq_ok, exists_unit, raiseIf_eq_ok, not_or, not_not] at hok
    obtain ⟨⟨-, hprevious, -⟩, hrest⟩ := hok
    refine ⟨hprevious, ?_⟩
    split at hrest
    · simp only [bind_eq_ok, exists_unit, raiseIf_eq_ok, not_lt, GateSession.instant_eq_ok] at hrest
      obtain ⟨-, u, hu, -, -, -, -, -, -, -, -, hle, -⟩ := hrest
      obtain rfl : u = lastUpdate s := Option.some.inj (hu.symm.trans hupdated)
      omega
    · cases hrest
  · rintro ⟨hprevious, hle⟩
    obtain ⟨w, now, text, hrenew⟩ := renewal_of_decided ha hprevious hstatus
    obtain ⟨-, -, ⟨l, m, u, q, hl, hm, hu, hq, hadvance, -, hextends⟩, hrecord⟩ :=
      GateSession.renewLease_eq_ok.mp hrenew
    have hversion : s.version = p.version + 1 := by rw [hrecord]; rfl
    have htext : s.leaseExpiresAt = some text := by rw [hrecord]; rfl
    have hnow : s.updatedAt = now := by rw [hrecord]; rfl
    obtain ⟨previousText, hprevious', hpl⟩ := Option.bind_eq_some_iff.mp hl
    have hm' : m = lease s := hleased.lease_eq_of htext hm
    obtain rfl : u = lastUpdate s := by
      rw [← hnow] at hu
      exact Option.some.inj (hu.symm.trans hupdated)
    have hne : text ≠ previousText := by
      rintro rfl
      have heq := Option.some.inj (hm.symm.trans hpl)
      omega
    have hlast := hleased.lease_le
    simp only [verifyRenewal, bind_eq_ok, exists_unit, raiseIf_eq_ok, hprevious', htext, not_or,
      not_not, not_le, not_lt, GateSession.instant_eq_ok]
    refine ⟨⟨by omega, hprevious, hstatus⟩, hne, _, hupdated, q, hq, hadvance, m, hm, l, hpl, hextends,
      by omega, by omega, _, htimes.expires_instant, by omega, p, unrenewed_eq hrecord, rfl⟩

theorem recovered_iff (hreach : Reachable table) (hs : s ∈ currents table)
    (hstatus : s.status = .decided) (ht : t ≤ maxInstant)
    (hreading : instant? reading = some (t : Int)) (hheld : t < lease s)
    {request : FinalizationRequest} (hversion : s.version ≠ request.expectedSessionVersion)
    (depth : Nat) :
    returns (claimOrRecoverDecisionLease reading request (depth + 1) s table) = true ↔
      request.expectedSessionVersion + 1 = s.version ∧ lastUpdate s ≤ t ∧ JustRenewed table s := by
  have h := hreach.stored
  obtain ⟨e, he, rfl⟩ := mem_currents hs
  have htimes := h.times e he
  have hleased := h.leased hs (by rw [hstatus]; rfl)
  have hrun : returns (claimOrRecoverDecisionLease reading request (depth + 1) e.current table) = true ↔
      ∃ r, recoverDecisionLease reading e.current request table = .ok r := by
    simp only [claimOrRecoverDecisionLease, if_neg hversion, inspect]
    cases recoverDecisionLease reading e.current request table with
    | ok r => simp [returns]
    | error x => simp [returns]
  have hnow : GateSession.instant (isoformat t) = .ok (t : Int) :=
    GateSession.instant_eq_ok.mpr (instant_isoformat ht)
  rw [hrun]
  simp only [recoverDecisionLease, bind_eq_ok, exists_unit, raiseIf_eq_ok, not_not, historyOf_eq h he,
    trustedTime_eq ht hreading, Except.ok.injEq, exists_eq_left', hnow, demand_eq_ok, pure_eq_ok,
    List.getLast?_append, List.dropLast_concat]
  constructor
  · rintro ⟨r, hnext, -, p, hp, hverify, -⟩
    rw [List.getLast?_reverse] at hp
    obtain ⟨older, hchain⟩ := List.head?_eq_some_iff.mp hp
    obtain ⟨a, ha⟩ := hreach.linked e he p older hchain
    obtain ⟨hprevious, hle⟩ :=
      (verifyRenewal_iff htimes hleased hheld hstatus ha hnext.symm).mp hverify
    refine ⟨hnext.symm, hle, p, older, ?_, hprevious⟩
    rw [← hchain]
    exact he
  · rintro ⟨hnext, hle, p, older, hmem, hprevious⟩
    have hchain : e.superseded = p :: older :=
      (congrArg SessionEntry.superseded (h.entry_unique hmem he rfl)).symm
    obtain ⟨a, ha⟩ := hreach.linked e he p older hchain
    rw [hchain]
    refine ⟨_, hnext.symm, ?_, p, ?_, (verifyRenewal_iff htimes hleased hheld hstatus ha hnext).mpr
      ⟨hprevious, hle⟩, rfl⟩
    · simp
    · simp

def ExtendsTo (s : GateSession) (i n : Nat) : Prop :=
  i < lease s ∧ lease s < i + n * 1000000 ∧ i + n * 1000000 ≤ expires s

theorem claim_returns_iff (hreach : Reachable table) (hs : s ∈ currents table)
    (hstatus : s.status = .decided) (hreading : instant? reading = some (t : Int))
    (hheld : t < lease s) (request : FinalizationRequest) (depth : Nat) :
    returns (claimOrRecoverDecisionLease reading request (depth + 1) s table) = true ↔
      lastUpdate s ≤ t ∧
        (request.expectedSessionVersion = s.version ∧
            ExtendsTo s (trustedInstant s t) request.leaseSeconds ∨
          request.expectedSessionVersion + 1 = s.version ∧ JustRenewed table s) := by
  have h := hreach.stored
  have hactive : s.status.activeLease = true := by rw [hstatus]; rfl
  have hmax := (h.leased hs hactive).lease_max
  have ht : t ≤ maxInstant := by omega
  by_cases hversion : s.version = request.expectedSessionVersion
  · have hnot : ¬request.expectedSessionVersion + 1 = s.version := by omega
    rw [claimed_iff h hs hstatus hversion depth,
      renewStoredLease_iff h hs hactive ht hreading request.lease_range]
    simp only [hnot, false_and, or_false, eq_true hversion.symm, true_and, ExtendsTo]
  · have hnot : ¬request.expectedSessionVersion = s.version := fun heq => hversion heq.symm
    rw [recovered_iff hreach hs hstatus ht hreading hheld hversion depth]
    simp only [hnot, false_and, false_or]
    exact and_left_comm

theorem JustRenewed.version_pos (h : JustRenewed table s) (hreach : Reachable table)
    (hstatus : s.status = .decided) : 2 ≤ s.version := by
  obtain ⟨p, older, hmem, hprevious⟩ := h
  obtain ⟨a, ha⟩ := hreach.linked _ hmem p older rfl
  obtain ⟨w, now, text, hrenew⟩ := renewal_of_decided ha hprevious hstatus
  have hversion : s.version = p.version + 1 := by
    rw [(GateSession.renewLease_eq_ok.mp hrenew).2.2.2]
    rfl
  have hpos := GateRepository.version_pos p
  omega

def decidedCalls (leaseSeconds : Int) : List (Str × GateCall) :=
  [(lit "2026-01-01T00:00:00Z", .createOrGet sampleIdentity 60),
    (lit "2026-01-01T00:00:01Z", .transition (lit "session-1") .prepared 1 (some leaseSeconds)
      { retrievalSnapshotId := some (lit "snapshot-1")
        systemGateEvaluationId := some (lit "evaluation-1") }),
    (lit "2026-01-01T00:00:02Z", .transition (lit "session-1") .awaitingDecision 2 none {}),
    (lit "2026-01-01T00:00:03Z", .transition (lit "session-1") .decided 3 none
      { semanticGateAttemptIds := some [lit "attempt-1"]
        decisionId := some (lit "attempt-1") })]

def decidedTable (leaseSeconds : Int) : GateTable := afterCalls true [] (decidedCalls leaseSeconds)

theorem decidedTable_reachable (leaseSeconds : Int) : Reachable (decidedTable leaseSeconds) :=
  ⟨true, decidedCalls leaseSeconds, rfl⟩

def decidedSessions (leaseSeconds : Int) :
    List ((Nat × GateSessionStatus × Nat × Nat × Nat) × List GateSessionStatus) :=
  (decidedTable leaseSeconds).map (fun e => ((e.current.version, e.current.status,
    lastUpdate e.current, lease e.current, expires e.current), e.superseded.map (fun p => p.status)))

set_option maxRecDepth 20000 in
theorem decidedSessions_short : decidedSessions 29 =
    [((4, .decided, micros (lit "2026-01-01T00:00:03Z"), micros (lit "2026-01-01T00:00:30Z"),
      micros (lit "2026-01-01T00:01:00Z")), [.awaitingDecision, .prepared, .created])] := by
  decide +kernel

set_option maxRecDepth 20000 in
theorem decidedSessions_full : decidedSessions 59 =
    [((4, .decided, micros (lit "2026-01-01T00:00:03Z"), micros (lit "2026-01-01T00:01:00Z"),
      micros (lit "2026-01-01T00:01:00Z")), [.awaitingDecision, .prepared, .created])] := by
  decide +kernel

theorem decidedTable_entry {leaseSeconds : Int} {held : Str} {earlier : List GateSessionStatus}
    (h : decidedSessions leaseSeconds =
      [((4, .decided, micros (lit "2026-01-01T00:00:03Z"), micros held,
        micros (lit "2026-01-01T00:01:00Z")), earlier)]) :
    ∃ e, decidedTable leaseSeconds = [e] ∧ e.current.version = 4 ∧ e.current.status = .decided ∧
      lastUpdate e.current = micros (lit "2026-01-01T00:00:03Z") ∧
      lease e.current = micros held ∧
      expires e.current = micros (lit "2026-01-01T00:01:00Z") ∧
      e.superseded.map (fun p => p.status) = earlier := by
  obtain ⟨e, l, htable, he, hl⟩ := List.map_eq_cons_iff.mp h
  obtain rfl := List.map_eq_nil_iff.mp hl
  simp only [Prod.mk.injEq] at he
  obtain ⟨⟨h₁, h₂, h₃, h₄, h₅⟩, h₆⟩ := he
  exact ⟨e, htable, h₁, h₂, h₃, h₄, h₅, h₆⟩

end Claiming

end GateRepository

end TraceBackedMemory
