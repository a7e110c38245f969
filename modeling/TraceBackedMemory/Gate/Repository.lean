import TraceBackedMemory.Gate.SessionRuns
import TraceBackedMemory.Foundation.OrderBy

namespace TraceBackedMemory

open Text Raising OrderBy

namespace GateRepository

section Clock

def clockFailure (message : Str) : GateError :=
  ⟨.persistence, lit "TBM_SQLITE_GATE_SESSION_CLOCK", message⟩

def movedBackwards : GateError := clockFailure (lit "trusted GateSession clock moved backwards")

def trustedNow (reading : Str) : Except GateError Str := do
  let parsed ← demand (instant? reading)
    (clockFailure (lit "trusted GateSession clock returned an invalid timestamp"))
  demand (utcText? parsed) dateOutOfRange

def trustedAfter (reading previous : Str) : Except GateError Str := do
  let now ← trustedNow reading
  let parsedNow ← GateSession.instant now
  let parsedPrevious ← GateSession.instant previous
  raiseIf (parsedNow < parsedPrevious) movedBackwards
  if parsedNow = parsedPrevious then
    demand (utcText? (parsedPrevious + 1000000)) dateOutOfRange
  else
    .ok now

def maxTtlSeconds : Nat := 31536000

def maxLeaseSeconds : Nat := 86400

def deadline (now : Str) (seconds : Int) (maximum : Nat) : Except GateError Str := do
  raiseIf (seconds < 1 ∨ (maximum : Int) < seconds)
    ⟨.valueError, [], lit "seconds must be an integer from 1 through " ++ decimal maximum⟩
  let parsed ← GateSession.instant now
  demand (utcText? (parsed + seconds * 1000000)) dateOutOfRange

end Clock

section Table

structure SessionEntry where
  current : GateSession
  superseded : List GateSession

abbrev GateTable := List SessionEntry

def sessionNotFound : GateError :=
  ⟨.notFound, lit "TBM_SQLITE_GATE_SESSION_NOT_FOUND", lit "GateSession was not found"⟩

def selectCurrent (table : GateTable) (sessionId : Str) : Except GateError GateSession :=
  demand ((table.find? (fun e => decide (e.current.sessionId = sessionId))).map SessionEntry.current)
    sessionNotFound

def appendRevision (table : GateTable) (next : GateSession) : GateTable :=
  table.map (fun e =>
    if e.current.sessionId = next.sessionId then ⟨next, e.current :: e.superseded⟩ else e)

def sqliteLength (s : Str) : Nat := (s.takeWhile (fun c => decide (c ≠ 0))).length

def storableIdentity (i : SessionIdentity) : Bool :=
  [i.sessionId, i.tenantId, i.repositoryId, i.principalId, i.agentClientId, i.traceId, i.runId,
    i.idempotencyKey].all (fun s => decide (1 ≤ sqliteLength s))

def sameIdempotencyScope (a b : SessionIdentity) : Bool :=
  decide (a.tenantId = b.tenantId ∧ a.repositoryId = b.repositoryId ∧
    a.principalId = b.principalId ∧ a.agentClientId = b.agentClientId ∧
    a.idempotencyKey = b.idempotencyKey)

def sameIdempotentRequest (existing proposed : SessionIdentity) : Bool :=
  sameIdempotencyScope existing proposed &&
    decide (existing.traceId = proposed.traceId ∧ existing.runId = proposed.runId ∧
      existing.requestFingerprint = proposed.requestFingerprint)

end Table

section Operations

def idempotencyConflict : GateError :=
  ⟨.conflict, lit "TBM_SQLITE_GATE_SESSION_IDEMPOTENCY_CONFLICT",
    lit "idempotency key is bound to another request"⟩

def sessionIdConflict : GateError :=
  ⟨.conflict, lit "TBM_SQLITE_GATE_SESSION_ID_CONFLICT",
    lit "session_id is already bound to another request"⟩

def persistenceFailure (message : Str) : GateError :=
  ⟨.persistence, lit "TBM_SQLITE_GATE_SESSION_PERSISTENCE", message⟩

structure CreateResult where
  session : GateSession
  inserted : Bool

def createOrGet (table : GateTable) (reading : Str) (i : SessionIdentity) (expiresInSeconds : Int) :
    Except GateError (CreateResult × GateTable) := do
  let now ← trustedNow reading
  let expiresAt ← deadline now expiresInSeconds maxTtlSeconds
  let proposed ← createGateSession i now expiresAt
  match table.find? (fun e => sameIdempotencyScope e.current.identity i) with
  | some e =>
    raiseIf (sameIdempotentRequest e.current.identity i = false) idempotencyConflict
    return (⟨e.current, false⟩, table)
  | none =>
    raiseIf (table.any (fun e => decide (e.current.sessionId = i.sessionId)) = true)
      sessionIdConflict
    raiseIf (storableIdentity i = false)
      (persistenceFailure (lit "failed to create SQLite GateSession"))
    return (⟨proposed, true⟩, table ++ [⟨proposed, []⟩])

def requireLiveTransition (current : GateSession) (now : Str) (target : GateSessionStatus) :
    Except GateError Unit := do
  let parsedNow ← GateSession.instant now
  if target = .expired then
    .ok ()
  else
    let expires ← GateSession.instant current.expiresAt
    raiseIf (expires ≤ parsedNow)
      ⟨.conflict, lit "TBM_SQLITE_GATE_SESSION_EXPIRED", lit "GateSession expiry has passed"⟩
    match current.leaseExpiresAt with
    | none => .ok ()
    | some value =>
      let lease ← GateSession.instant value
      raiseIf (lease ≤ parsedNow)
        ⟨.conflict, lit "TBM_SQLITE_GATE_SESSION_LEASE_EXPIRED", lit "GateSession lease has expired"⟩

def leaseDeadline (now : Str) (leaseSeconds : Option Int) : Except GateError (Option Str) :=
  match leaseSeconds with
  | none => .ok none
  | some seconds => do
    let lease ← deadline now seconds maxLeaseSeconds
    return some lease

def completionAuthority : GateError :=
  ⟨.conflict, lit "TBM_SQLITE_GATE_SESSION_COMPLETION_AUTHORITY",
    lit "GateSession completion requires the RunOutcome authority"⟩

def transitionStored (allowDirectCompletion : Bool) (table : GateTable) (reading sessionId : Str)
    (target : GateSessionStatus) (expectedVersion : Nat) (leaseSeconds : Option Int)
    (f : TransitionFields) : Except GateError (GateSession × GateTable) := do
  raiseIf (target = .completed ∧ allowDirectCompletion = false) completionAuthority
  let current ← selectCurrent table sessionId
  let now ← trustedAfter reading current.updatedAt
  requireLiveTransition current now target
  let lease ← leaseDeadline now leaseSeconds
  let next ← current.transition target expectedVersion now { f with leaseExpiresAt := lease }
  return (next, appendRevision table next)

def renewStoredLease (table : GateTable) (reading sessionId : Str) (expectedVersion : Nat)
    (leaseSeconds : Int) : Except GateError (GateSession × GateTable) := do
  let current ← selectCurrent table sessionId
  let now ← trustedAfter reading current.updatedAt
  let lease ← deadline now leaseSeconds maxLeaseSeconds
  let next ← current.renewLease expectedVersion now lease
  return (next, appendRevision table next)

def dueRow (now : Str) (s : GateSession) : Bool :=
  s.status.activeLease &&
    (decide (s.expiresAt ≤ now) ||
      match s.leaseExpiresAt with
      | none => false
      | some lease => decide (lease ≤ now))

-- a NULL lease sorts before every text, as the empty text does
def dueKey (s : GateSession) : Str ×ₗ Str ×ₗ Str :=
  toLex (s.expiresAt, toLex (s.leaseExpiresAt.getD [], s.sessionId))

def listDue (table : GateTable) (reading : Str) (limit : Int) : Except GateError (List GateSession) := do
  raiseIf (limit < 1 ∨ 10000 < limit)
    ⟨.valueError, [], lit "limit must be an integer from 1 through 10000"⟩
  let now ← trustedNow reading
  return (orderBy dueKey ((table.map SessionEntry.current).filter (dueRow now))).take limit.toNat

end Operations

section Calls

inductive GateCall where
  | createOrGet (identity : SessionIdentity) (expiresInSeconds : Int)
  | transition (sessionId : Str) (target : GateSessionStatus) (expectedVersion : Nat)
      (leaseSeconds : Option Int) (fields : TransitionFields)
  | renewLease (sessionId : Str) (expectedVersion : Nat) (leaseSeconds : Int)
  | listDue (limit : Int)

variable (allowDirectCompletion : Bool)

def GateCall.perform (table : GateTable) (reading : Str) : GateCall → Except GateError GateTable
  | createOrGet i seconds => Prod.snd <$> GateRepository.createOrGet table reading i seconds
  | transition sessionId target v lease f =>
    Prod.snd <$> transitionStored allowDirectCompletion table reading sessionId target v lease f
  | renewLease sessionId v seconds => Prod.snd <$> renewStoredLease table reading sessionId v seconds
  | listDue limit => (fun _ => table) <$> GateRepository.listDue table reading limit

def settled (table : GateTable) : Except GateError GateTable → GateTable
  | .ok next => next
  | .error _ => table

def outcomes (table : GateTable) : List (Str × GateCall) → List (Except GateError GateTable)
  | [] => []
  | (reading, call) :: l =>
    let r := call.perform allowDirectCompletion table reading
    r :: outcomes (settled table r) l

def afterCalls (table : GateTable) : List (Str × GateCall) → GateTable
  | [] => table
  | (reading, call) :: l =>
    afterCalls (settled table (call.perform allowDirectCompletion table reading)) l

def Reachable (table : GateTable) : Prop :=
  ∃ allowDirectCompletion calls, table = afterCalls allowDirectCompletion [] calls

end Calls

section Canonical

theorem trustedNow_eq_ok {reading now : Str} (h : trustedNow reading = .ok now) :
    ∃ i, instant? reading = some i ∧ CanonicalText now ∧ instant? now = some i := by
  simp only [trustedNow, bind_eq_ok, demand_eq_ok] at h
  obtain ⟨i, hi, hnow⟩ := h
  exact ⟨i, hi, utcText_eq_some hnow⟩

theorem trustedAfter_eq_ok {reading previous now : Str} (h : trustedAfter reading previous = .ok now) :
    ∃ i p, instant? reading = some i ∧ instant? previous = some p ∧ p ≤ i ∧ CanonicalText now ∧
      instant? now = some (if i = p then p + 1000000 else i) := by
  simp only [trustedAfter, bind_eq_ok, exists_unit, raiseIf_eq_ok, GateSession.instant_eq_ok,
    not_lt] at h
  obtain ⟨text, htext, n, hn, p, hp, hle, hnow⟩ := h
  obtain ⟨i, hi, hcanonical, hinstant⟩ := trustedNow_eq_ok htext
  obtain rfl : n = i := Option.some.inj (hn.symm.trans hinstant)
  refine ⟨n, p, hi, hp, hle, ?_⟩
  split at hnow
  · rename_i heq
    rw [demand_eq_ok] at hnow
    rw [if_pos heq]
    exact utcText_eq_some hnow
  · rename_i hne
    cases hnow
    rw [if_neg hne]
    exact ⟨hcanonical, hinstant⟩

theorem deadline_canonical {now text : Str} {seconds : Int} {maximum : Nat}
    (h : deadline now seconds maximum = .ok text) : CanonicalText text := by
  simp only [deadline, bind_eq_ok, exists_unit, demand_eq_ok] at h
  obtain ⟨-, p, -, htext⟩ := h
  exact (utcText_eq_some htext).1

structure CanonicalTimes (s : GateSession) : Prop where
  created : CanonicalText s.createdAt
  updated : CanonicalText s.updatedAt
  expires : CanonicalText s.expiresAt
  lease : ∀ text, s.leaseExpiresAt = some text → CanonicalText text

theorem CanonicalTimes.transition {s s' : GateSession} (h : CanonicalTimes s)
    {target : GateSessionStatus} {v : Nat} {now : Str} {f : TransitionFields}
    (hnow : CanonicalText now) (hf : ∀ text, f.leaseExpiresAt = some text → CanonicalText text)
    (hs : s.transition target v now f = .ok s') : CanonicalTimes s' := by
  have hrecord := (GateSession.transition_eq_ok.mp hs).2.2.2.2
  refine ⟨?_, ?_, ?_, ?_⟩
  · rw [hrecord]
    exact h.created
  · rw [hrecord]
    exact hnow
  · rw [hrecord]
    exact h.expires
  · intro text htext
    rw [hrecord] at htext
    simp only [GateSession.advanced] at htext
    split at htext
    · cases htext
    · rcases Option.or_eq_some_iff.mp htext with hl | ⟨-, hl⟩
      · exact hf text hl
      · exact h.lease text hl

theorem CanonicalTimes.renewLease {s s' : GateSession} (h : CanonicalTimes s) {v : Nat}
    {now lease : Str} (hnow : CanonicalText now) (hlease : CanonicalText lease)
    (hs : s.renewLease v now lease = .ok s') : CanonicalTimes s' := by
  have hrecord := (GateSession.renewLease_eq_ok.mp hs).2.2.2
  refine ⟨?_, ?_, ?_, ?_⟩
  · rw [hrecord]
    exact h.created
  · rw [hrecord]
    exact hnow
  · rw [hrecord]
    exact h.expires
  · intro text htext
    rw [hrecord] at htext
    cases htext
    exact hlease

end Canonical

section Storage

structure Stored (table : GateTable) : Prop where
  ids : (table.map (fun e => e.current.sessionId)).Nodup
  times : ∀ e ∈ table, CanonicalTimes e.current

theorem selectCurrent_eq_ok {table : GateTable} {sessionId : Str} {s : GateSession}
    (h : selectCurrent table sessionId = .ok s) :
    ∃ e ∈ table, e.current = s ∧ s.sessionId = sessionId := by
  rw [selectCurrent, demand_eq_ok, Option.map_eq_some_iff] at h
  obtain ⟨e, he, rfl⟩ := h
  exact ⟨e, List.mem_of_find?_eq_some he, rfl, by simpa using List.find?_some he⟩

theorem appendRevision_ids (table : GateTable) (next : GateSession) :
    (appendRevision table next).map (fun e => e.current.sessionId) =
      table.map (fun e => e.current.sessionId) := by
  rw [appendRevision, List.map_map]
  apply List.map_congr_left
  intro e _
  simp only [Function.comp_apply]
  split
  · rename_i heq
    exact heq.symm
  · rfl

theorem mem_appendRevision {table : GateTable} {next : GateSession} {e : SessionEntry}
    (h : e ∈ appendRevision table next) : e.current = next ∨ e ∈ table := by
  rw [appendRevision, List.mem_map] at h
  obtain ⟨d, hd, rfl⟩ := h
  split
  · exact .inl rfl
  · exact .inr hd

theorem Stored.appendRevision {table : GateTable} (h : Stored table) {next : GateSession}
    (hnext : CanonicalTimes next) : Stored (appendRevision table next) := by
  refine ⟨?_, ?_⟩
  · rw [appendRevision_ids]
    exact h.ids
  · intro e he
    rcases mem_appendRevision he with heq | hmem
    · rw [heq]
      exact hnext
    · exact h.times e hmem

theorem createOrGet_eq_ok {table t : GateTable} {reading : Str} {i : SessionIdentity} {seconds : Int}
    {r : CreateResult} (h : createOrGet table reading i seconds = .ok (r, t)) :
    ∃ now expiresAt proposed, trustedNow reading = .ok now ∧
      deadline now seconds maxTtlSeconds = .ok expiresAt ∧
      createGateSession i now expiresAt = .ok proposed ∧
      (t = table ∨ (t = table ++ [⟨proposed, []⟩] ∧
        ∀ e ∈ table, e.current.sessionId ≠ i.sessionId)) := by
  simp only [createOrGet, bind_eq_ok] at h
  obtain ⟨now, hnow, expiresAt, hexpires, proposed, hproposed, h⟩ := h
  refine ⟨now, expiresAt, proposed, hnow, hexpires, hproposed, ?_⟩
  split at h
  · simp only [bind_eq_ok, exists_unit, pure_eq_ok] at h
    exact .inl (congrArg Prod.snd h.2).symm
  · simp only [bind_eq_ok, exists_unit, pure_eq_ok, raiseIf_eq_ok] at h
    refine .inr ⟨(congrArg Prod.snd h.2.2).symm, ?_⟩
    intro e he heq
    apply h.1
    rw [List.any_eq_true]
    exact ⟨e, he, by simpa using heq⟩

theorem transitionStored_eq_ok {allow : Bool} {table t : GateTable} {reading sessionId : Str}
    {target : GateSessionStatus} {v : Nat} {lease : Option Int} {f : TransitionFields}
    {next : GateSession}
    (h : transitionStored allow table reading sessionId target v lease f = .ok (next, t)) :
    ∃ current now leaseText, selectCurrent table sessionId = .ok current ∧
      trustedAfter reading current.updatedAt = .ok now ∧
      leaseDeadline now lease = .ok leaseText ∧
      current.transition target v now { f with leaseExpiresAt := leaseText } = .ok next ∧
      t = appendRevision table next := by
  simp only [transitionStored, bind_eq_ok, exists_unit, pure_eq_ok, Prod.mk.injEq] at h
  obtain ⟨-, current, hcurrent, now, hnow, -, leaseText, hlease, s', hs', rfl, rfl⟩ := h
  exact ⟨current, now, leaseText, hcurrent, hnow, hlease, hs', rfl⟩

theorem renewStoredLease_eq_ok {table t : GateTable} {reading sessionId : Str} {v : Nat}
    {seconds : Int} {next : GateSession}
    (h : renewStoredLease table reading sessionId v seconds = .ok (next, t)) :
    ∃ current now leaseText, selectCurrent table sessionId = .ok current ∧
      trustedAfter reading current.updatedAt = .ok now ∧
      deadline now seconds maxLeaseSeconds = .ok leaseText ∧
      current.renewLease v now leaseText = .ok next ∧ t = appendRevision table next := by
  simp only [renewStoredLease, bind_eq_ok, pure_eq_ok, Prod.mk.injEq] at h
  obtain ⟨current, hcurrent, now, hnow, leaseText, hlease, s', hs', rfl, rfl⟩ := h
  exact ⟨current, now, leaseText, hcurrent, hnow, hlease, hs', rfl⟩

theorem leaseDeadline_canonical {now : Str} {seconds : Option Int} {o : Option Str}
    (h : leaseDeadline now seconds = .ok o) : ∀ text, o = some text → CanonicalText text := by
  intro text htext
  subst htext
  cases seconds with
  | none => cases h
  | some n =>
    simp only [leaseDeadline, bind_eq_ok, pure_eq_ok] at h
    obtain ⟨lease, hlease, heq⟩ := h
    cases heq
    exact deadline_canonical hlease

theorem Stored.perform {allow : Bool} {table t : GateTable} (h : Stored table) {reading : Str}
    {call : GateCall} (hcall : call.perform allow table reading = .ok t) : Stored t := by
  cases call with
  | createOrGet i seconds =>
    obtain ⟨⟨r, u⟩, hr, rfl⟩ := map_eq_ok.mp hcall
    obtain ⟨now, expiresAt, proposed, hnow, hexpires, hproposed, rfl | ⟨rfl, hfresh⟩⟩ :=
      createOrGet_eq_ok hr
    · exact h
    · have hrecord := GateSessionRecord.build_eq_ok.mp hproposed
      obtain ⟨-, -, hcanonical, -⟩ := trustedNow_eq_ok hnow
      refine ⟨?_, ?_⟩
      · have hid : proposed.sessionId = i.sessionId := by rw [hrecord]
        rw [List.map_append, List.map_singleton, hid, List.nodup_append]
        refine ⟨h.ids, List.nodup_singleton _, ?_⟩
        intro a ha b hb
        obtain ⟨e, he, rfl⟩ := List.mem_map.mp ha
        rw [List.mem_singleton.mp hb]
        exact hfresh e he
      · intro e he
        rcases List.mem_append.mp he with he | he
        · exact h.times e he
        · rw [List.mem_singleton.mp he]
          refine ⟨?_, ?_, ?_, ?_⟩
          · rw [hrecord]
            exact hcanonical
          · rw [hrecord]
            exact hcanonical
          · rw [hrecord]
            exact deadline_canonical hexpires
          · intro text htext
            rw [hrecord] at htext
            cases htext
  | transition sessionId target v lease f =>
    obtain ⟨⟨next, u⟩, hr, rfl⟩ := map_eq_ok.mp hcall
    obtain ⟨current, now, leaseText, hcurrent, hnow, hlease, hs', rfl⟩ := transitionStored_eq_ok hr
    obtain ⟨e, he, rfl, -⟩ := selectCurrent_eq_ok hcurrent
    obtain ⟨-, -, -, -, -, hcanonical, -⟩ := trustedAfter_eq_ok hnow
    exact h.appendRevision
      ((h.times e he).transition hcanonical (leaseDeadline_canonical hlease) hs')
  | renewLease sessionId v seconds =>
    obtain ⟨⟨next, u⟩, hr, rfl⟩ := map_eq_ok.mp hcall
    obtain ⟨current, now, leaseText, hcurrent, hnow, hlease, hs', rfl⟩ := renewStoredLease_eq_ok hr
    obtain ⟨e, he, rfl, -⟩ := selectCurrent_eq_ok hcurrent
    obtain ⟨-, -, -, -, -, hcanonical, -⟩ := trustedAfter_eq_ok hnow
    exact h.appendRevision ((h.times e he).renewLease hcanonical (deadline_canonical hlease) hs')
  | listDue limit =>
    obtain ⟨-, -, rfl⟩ := map_eq_ok.mp hcall
    exact h

theorem Stored.settled {allow : Bool} {table : GateTable} (h : Stored table) (reading : Str)
    (call : GateCall) : Stored (settled table (call.perform allow table reading)) := by
  cases hcall : call.perform allow table reading with
  | error e => exact h
  | ok t => exact h.perform hcall

theorem Stored.afterCalls {allow : Bool} {table : GateTable} (h : Stored table)
    (calls : List (Str × GateCall)) : Stored (afterCalls allow table calls) := by
  induction calls generalizing table with
  | nil => exact h
  | cons c l ih => exact ih (h.settled c.1 c.2)

theorem Reachable.stored {table : GateTable} (h : Reachable table) : Stored table := by
  obtain ⟨allow, calls, rfl⟩ := h
  have hempty : Stored [] := ⟨List.nodup_nil, by simp⟩
  exact hempty.afterCalls calls

end Storage

end GateRepository

end TraceBackedMemory
