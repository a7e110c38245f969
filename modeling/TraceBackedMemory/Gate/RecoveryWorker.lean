import TraceBackedMemory.Gate.Exits
import TraceBackedMemory.Foundation.BoundedPass

namespace TraceBackedMemory

open Text Raising OrderBy

namespace GateRepository

variable (allow : Bool) (reading : Str)

section Worker

inductive RecoveryOutcome where
  | expired
  | recoveryRequired
  | superseded
  deriving DecidableEq

structure RecoveryResult where
  sessionId : Str
  observedVersion : Nat
  observedStatus : GateSessionStatus
  outcome : RecoveryOutcome
  current : GateSession

def workerError (code message : String) : GateError := ⟨.contract, lit code, lit message⟩

def invalidCandidates : GateError :=
  workerError "TBM_GATE_WORKER_CANDIDATES_INVALID"
    "GateSession due discovery returned invalid candidates"

def invalidReceipt : GateError :=
  workerError "TBM_GATE_WORKER_RECEIPT_INVALID"
    "GateSession authority returned an invalid expiry receipt"

def validateCurrent (candidate current : GateSession) : Except GateError Unit :=
  raiseIf (current.sessionId ≠ candidate.sessionId ∨ current.identity ≠ candidate.identity ∨
      current.createdAt ≠ candidate.createdAt ∨ current.expiresAt ≠ candidate.expiresAt ∨
      current.version < candidate.version ∨
      (current.version = candidate.version ∧ current ≠ candidate))
    (workerError "TBM_GATE_WORKER_CURRENT_INVALID"
      "GateSession authority returned invalid current state")

def workerResult (candidate : GateSession) (outcome : RecoveryOutcome) (current : GateSession) :
    RecoveryResult :=
  ⟨candidate.sessionId, candidate.version, candidate.status, outcome, current⟩

def classifyCurrent (candidate : GateSession) (table : GateTable) :
    Except GateError RecoveryResult :=
  match selectCurrent table candidate.sessionId with
  | .error _ => .error (workerError "TBM_GATE_WORKER_RECOVERY_READ_FAILED"
      "GateSession recovery state could not be read")
  | .ok current => do
    validateCurrent candidate current
    return workerResult candidate
      (if current.version ≠ candidate.version ∨ current.status ≠ candidate.status then .superseded
        else .recoveryRequired) current

def restored (candidate expired : GateSession) : GateSessionRecord :=
  { expired.toGateSessionRecord with
    version := candidate.version
    status := candidate.status
    updatedAt := candidate.updatedAt
    leaseExpiresAt := candidate.leaseExpiresAt
    terminalReason := candidate.terminalReason }

def expiryReason : Str := lit "session_expired"

-- building the restored session can itself fail, which the worker treats as a failed transition
def settleExpired (candidate expired : GateSession) (table : GateTable) :
    Except GateError RecoveryResult :=
  if expired.sessionId ≠ candidate.sessionId ∨ expired.version ≠ candidate.version + 1 ∨
      expired.status ≠ .expired ∨ expired.terminalReason ≠ some expiryReason then
    .error invalidReceipt
  else
    match (restored candidate expired).build with
    | .error _ => classifyCurrent candidate table
    | .ok original => do
      raiseIf (original ≠ candidate) invalidReceipt
      match selectCurrent table candidate.sessionId with
      | .error _ => classifyCurrent candidate table
      | .ok current => do
        raiseIf (current ≠ expired)
          (workerError "TBM_GATE_WORKER_RECEIPT_INVALID"
            "expired GateSession receipt was not durably retained")
        return workerResult candidate .expired expired

def recover (candidate : GateSession) : Program GateError GateTable RecoveryResult := fun table =>
  if candidate.status = .prepared ∨ candidate.status = .awaitingDecision then
    match transitionStored allow table reading candidate.sessionId .expired candidate.version none
        (GateSession.closing expiryReason) with
    | .error _ => inspect (classifyCurrent candidate) table
    | .ok (expired, next) => inspect (settleExpired candidate expired) next
  else inspect (classifyCurrent candidate) table

def recoverAll : List GateSession → Program GateError GateTable (List RecoveryResult)
  | [] => pure []
  | candidate :: rest => do
    let result ← recover allow reading candidate
    let results ← recoverAll rest
    return result :: results

def discover (limit : Int) (table : GateTable) : Except GateError (List GateSession) := do
  raiseIf (limit < 1 ∨ 10000 < limit)
    (workerError "TBM_GATE_WORKER_LIMIT_INVALID" "GateSession recovery limit is invalid")
  match listDue table reading limit with
  | .error _ => .error (workerError "TBM_GATE_WORKER_DISCOVERY_FAILED"
      "GateSession due discovery failed")
  | .ok candidates => do
    raiseIf (limit < candidates.length) invalidCandidates
    raiseIf (¬(candidates.map (fun c => c.sessionId)).Nodup ∨
      ∃ c ∈ candidates, c.status.activeLease = false) invalidCandidates
    return candidates

def runOnce (limit : Int) : Program GateError GateTable (List RecoveryResult) := do
  let candidates ← inspect (discover reading limit)
  recoverAll allow reading candidates

def afterPasses (limit : Int) (table : GateTable) : Nat → GateTable
  | 0 => table
  | k + 1 => afterPasses limit (finalState (runOnce allow reading limit table)) k

def expiredRevision (s : GateSession) : Except GateError GateSession := do
  let now ← trustedAfter reading s.updatedAt
  s.transition .expired s.version now (GateSession.closing expiryReason)

def expirable (s : GateSession) : Bool := (expiredRevision reading s).toBool

end Worker

section Steps

variable {allow : Bool} {reading : Str} {table : GateTable}

theorem expirable_iff {s : GateSession} :
    expirable reading s = true ↔ ∃ next, expiredRevision reading s = .ok next := by
  rw [expirable]
  cases expiredRevision reading s with
  | ok next => simp [Except.toBool]
  | error e => simp [Except.toBool]

theorem expiredRevision_eq_ok {s next : GateSession} (h : expiredRevision reading s = .ok next) :
    ∃ now, trustedAfter reading s.updatedAt = .ok now ∧
      next.toGateSessionRecord = s.advanced .expired now (GateSession.closing expiryReason) ∧
      (s.status = .prepared ∨ s.status = .awaitingDecision) := by
  simp only [expiredRevision, bind_eq_ok] at h
  obtain ⟨now, hnow, hnext⟩ := h
  obtain ⟨-, hedge, -, -, hrecord⟩ := GateSession.transition_eq_ok.mp hnext
  refine ⟨now, hnow, hrecord, ?_⟩
  cases hstatus : s.status <;> rw [hstatus] at hedge <;>
    simp [GateSessionStatus.allowedTransitions] at hedge ⊢

theorem transitionStored_expired (h : Stored table) {s next : GateSession} (hs : s ∈ currents table)
    (hnext : expiredRevision reading s = .ok next) :
    transitionStored allow table reading s.sessionId .expired s.version none
      (GateSession.closing expiryReason) = .ok (next, appendRevision table next) := by
  have hselect : selectCurrent table s.sessionId = .ok s := (selectCurrent_iff h).mpr ⟨hs, rfl⟩
  simp only [expiredRevision, bind_eq_ok] at hnext
  obtain ⟨now, hnow, hnext⟩ := hnext
  have hlive : requireLiveTransition s now .expired = .ok () := by
    obtain ⟨-, -, -, -, -, ⟨n, hn, rfl⟩, -⟩ := trustedAfter_eq_ok hnow
    exact (requireLiveTransition_iff (canonical_of_current h hs) hn).mpr (.inl rfl)
  simp only [transitionStored, bind_eq_ok, exists_unit, pure_eq_ok, raiseIf_eq_ok]
  exact ⟨by simp, s, hselect, now, hnow, hlive, none, rfl, next, hnext, rfl⟩

theorem transitionStored_expired_inv (h : Stored table) {s next : GateSession} {t : GateTable}
    (hs : s ∈ currents table)
    (hok : transitionStored allow table reading s.sessionId .expired s.version none
      (GateSession.closing expiryReason) = .ok (next, t)) : expiredRevision reading s = .ok next := by
  obtain ⟨current, now, leaseText, hcurrent, hnow, hlease, hnext, -⟩ := transitionStored_eq_ok hok
  have hselect : selectCurrent table s.sessionId = .ok s := (selectCurrent_iff h).mpr ⟨hs, rfl⟩
  obtain rfl : current = s := Except.ok.inj (hcurrent.symm.trans hselect)
  cases hlease
  simp only [expiredRevision, bind_eq_ok]
  exact ⟨now, hnow, hnext⟩

theorem restored_expired {s next : GateSession} {now : Str}
    (h : next.toGateSessionRecord = s.advanced .expired now (GateSession.closing expiryReason)) :
    restored s next = s.toGateSessionRecord := by
  rw [restored, h]
  rfl

theorem settleExpired_eq {s next : GateSession} (hs : s ∈ currents table)
    (hstored : Stored (appendRevision table next)) {now : Str}
    (hrecord : next.toGateSessionRecord =
      s.advanced .expired now (GateSession.closing expiryReason)) :
    settleExpired s next (appendRevision table next) = .ok (workerResult s .expired next) := by
  have hid : next.sessionId = s.sessionId := by rw [hrecord]; rfl
  have hversion : next.version = s.version + 1 := by rw [hrecord]; rfl
  have hstatus : next.status = .expired := by rw [hrecord]; rfl
  have hreason : next.terminalReason = some expiryReason := by rw [hrecord]; rfl
  have hmem : next ∈ currents (appendRevision table next) :=
    (mem_currents_appendRevision ⟨s, hs, hid.symm⟩).mpr (.inl rfl)
  have hselect : selectCurrent (appendRevision table next) s.sessionId = .ok next :=
    (selectCurrent_iff hstored).mpr ⟨hmem, hid⟩
  have hbuild : (restored s next).build = .ok s :=
    GateSessionRecord.build_eq_ok.mpr (restored_expired hrecord).symm
  have hreceipt : ¬(next.sessionId ≠ s.sessionId ∨ next.version ≠ s.version + 1 ∨
      next.status ≠ .expired ∨ next.terminalReason ≠ some expiryReason) := by
    simp [hid, hversion, hstatus, hreason]
  rw [settleExpired, if_neg hreceipt, hbuild, hselect]
  show (do
    raiseIf (s ≠ s) invalidReceipt
    raiseIf (next ≠ next) _
    return workerResult s .expired next) = Except.ok (workerResult s .expired next)
  rw [raiseIf_of_not (not_not.mpr rfl), raiseIf_of_not (not_not.mpr rfl)]
  rfl

theorem classifyCurrent_eq (h : Stored table) {s : GateSession} (hs : s ∈ currents table) :
    ∃ r, classifyCurrent s table = .ok r := by
  have hselect : selectCurrent table s.sessionId = .ok s := (selectCurrent_iff h).mpr ⟨hs, rfl⟩
  have hvalid : validateCurrent s s = .ok () := by
    refine raiseIf_of_not ?_
    simp
  rw [classifyCurrent, hselect]
  show ∃ r, (do
    validateCurrent s s
    return workerResult s _ s) = Except.ok r
  rw [hvalid]
  exact ⟨_, rfl⟩

structure Recovered (reading : Str) (table t : GateTable) (s : GateSession) : Prop where
  stored : Stored t
  moved : expirable reading s = true → ∃ next, t = appendRevision table next ∧
    next.sessionId = s.sessionId ∧ next.status.terminal = true
  kept : expirable reading s = false → t = table

theorem recover_spec (h : Stored table) {s : GateSession} (hs : s ∈ currents table) :
    ∃ r t, recover allow reading s table = .ok r t ∧ Recovered reading table t s := by
  by_cases hexpirable : expirable reading s = true
  · obtain ⟨next, hnext⟩ := expirable_iff.mp hexpirable
    obtain ⟨now, -, hrecord, hstatus⟩ := expiredRevision_eq_ok hnext
    have hstep : transitionStored allow table reading s.sessionId .expired s.version none
        (GateSession.closing expiryReason) = .ok (next, appendRevision table next) :=
      transitionStored_expired h hs hnext
    have hstored : Stored (appendRevision table next) := by
      have hperform : (GateCall.transition s.sessionId .expired s.version none
          (GateSession.closing expiryReason)).perform allow table reading =
            .ok (appendRevision table next) := by
        rw [GateCall.perform, hstep]
        rfl
      exact h.perform hperform
    refine ⟨workerResult s .expired next, appendRevision table next, ?_, ⟨hstored, fun _ => ⟨next, rfl, ?_, ?_⟩, fun hnot => ?_⟩⟩
    · rw [recover, if_pos hstatus, hstep]
      exact run_inspect_eq_ok.mpr ⟨settleExpired_eq hs hstored hrecord, rfl⟩
    · rw [hrecord]
      rfl
    · rw [hrecord]
      rfl
    · rw [hexpirable] at hnot
      cases hnot
  · obtain ⟨r, hr⟩ := classifyCurrent_eq h hs
    refine ⟨r, table, ?_, ⟨h, fun hyes => absurd hyes hexpirable, fun _ => rfl⟩⟩
    rw [recover]
    split
    · cases hstep : transitionStored allow table reading s.sessionId .expired s.version none
          (GateSession.closing expiryReason) with
      | error e => exact run_inspect_eq_ok.mpr ⟨hr, rfl⟩
      | ok p =>
        obtain ⟨next, t⟩ := p
        exact absurd (expirable_iff.mpr ⟨next, transitionStored_expired_inv h hs hstep⟩) hexpirable
    · exact run_inspect_eq_ok.mpr ⟨hr, rfl⟩

theorem currents_appendRevision (table : GateTable) (next : GateSession) :
    currents (appendRevision table next) =
      (currents table).map (fun c => if c.sessionId = next.sessionId then next else c) := by
  rw [currents, appendRevision, List.map_map, currents, List.map_map]
  apply List.map_congr_left
  intro e _
  simp only [Function.comp_apply]
  split <;> rfl

theorem filter_appendRevision {next : GateSession} {p : GateSession → Bool} (hp : p next = false) :
    (currents (appendRevision table next)).filter p =
      (currents table).filter (fun c => p c && !decide (c.sessionId = next.sessionId)) := by
  rw [currents_appendRevision]
  induction currents table with
  | nil => rfl
  | cons c l ih =>
    rw [List.map_cons, List.filter_cons, List.filter_cons, ih]
    by_cases hid : c.sessionId = next.sessionId
    · rw [if_pos hid, hp]
      simp [hid]
    · rw [if_neg hid]
      simp [hid]

structure Swept (reading : Str) (table t : GateTable) (page : List GateSession) : Prop where
  stored : Stored t
  left : ∀ p : GateSession → Bool, (∀ s, s.status.terminal = true → p s = false) →
    (currents t).filter p =
      (currents table).filter (fun s => p s && !(decide (s ∈ page) && expirable reading s))
  ended : ∀ s ∈ page, expirable reading s = true → Ended t s.sessionId
  kept : ∀ s ∈ currents table, ¬(s ∈ page ∧ expirable reading s = true) → s ∈ currents t

theorem ended_of_current (h : Stored table) {s : GateSession} (hs : s ∈ currents table)
    (hterminal : s.status.terminal = true) : Ended table s.sessionId :=
  ⟨s, (selectCurrent_iff h).mpr ⟨hs, rfl⟩, hterminal⟩

theorem Recovered.swept {t : GateTable} {s : GateSession} (h : Recovered reading table t s)
    (hstored : Stored table) (hs : s ∈ currents table) : Swept reading table t [s] := by
  have same {c : GateSession} (hc : c ∈ currents table) : c.sessionId = s.sessionId ↔ c = s :=
    ⟨hstored.session_unique hc hs, fun heq => by rw [heq]⟩
  by_cases hexpirable : expirable reading s = true
  · obtain ⟨next, rfl, hid, hterminal⟩ := h.moved hexpirable
    have hcurrent {c : GateSession} : c ∈ currents (appendRevision table next) ↔
        c = next ∨ c ∈ currents table ∧ c.sessionId ≠ next.sessionId :=
      mem_currents_appendRevision ⟨s, hs, hid.symm⟩
    refine ⟨h.stored, ?_, ?_, ?_⟩
    · intro p hp
      rw [filter_appendRevision (hp next hterminal)]
      apply List.filter_congr
      intro c hc
      by_cases heq : c = s
      · simp [heq, hid, hexpirable]
      · have hne : c.sessionId ≠ next.sessionId := by
          rw [hid]
          exact fun hsame => heq ((same hc).mp hsame)
        simp [heq, hne]
    · intro c hc _
      rw [List.mem_singleton.mp hc, ← hid]
      exact ended_of_current h.stored (hcurrent.mpr (.inl rfl)) hterminal
    · intro c hc hnot
      refine hcurrent.mpr (.inr ⟨hc, ?_⟩)
      rw [hid]
      intro heq
      obtain rfl := (same hc).mp heq
      exact hnot ⟨List.mem_singleton_self c, hexpirable⟩
  · rw [h.kept (Bool.eq_false_iff.mpr hexpirable)]
    refine ⟨hstored, ?_, ?_, fun c hc _ => hc⟩
    · intro p _
      apply List.filter_congr
      intro c _
      by_cases heq : c = s
      · rw [heq, Bool.eq_false_iff.mpr hexpirable]
        simp
      · simp [heq]
    · intro c hc hyes
      rw [List.mem_singleton.mp hc] at hyes
      exact absurd hyes hexpirable

theorem Swept.ended_later {t : GateTable} {page : List GateSession}
    (h : Swept reading table t page) (hstored : Stored table) {sessionId : Str}
    (hended : Ended table sessionId) : Ended t sessionId := by
  obtain ⟨c, hselect, hterminal⟩ := hended
  obtain ⟨hc, rfl⟩ := (selectCurrent_iff hstored).mp hselect
  refine ended_of_current h.stored (h.kept c hc ?_) hterminal
  rintro ⟨-, hexpirable⟩
  obtain ⟨next, hnext⟩ := expirable_iff.mp hexpirable
  obtain ⟨-, -, -, hstatus⟩ := expiredRevision_eq_ok hnext
  rcases hstatus with hstatus | hstatus <;> rw [hstatus] at hterminal <;> cases hterminal

theorem Swept.cons {u t : GateTable} {s : GateSession} {page : List GateSession}
    (h : Swept reading table u [s]) (hrest : Swept reading u t page) :
    Swept reading table t (s :: page) := by
  refine ⟨hrest.stored, ?_, ?_, ?_⟩
  · intro p hp
    have hq : ∀ c : GateSession, c.status.terminal = true →
        (p c && !(decide (c ∈ page) && expirable reading c)) = false := by
      intro c hterminal
      rw [hp c hterminal, Bool.false_and]
    rw [hrest.left p hp, h.left _ hq]
    apply List.filter_congr
    intro c _
    cases hexpirable : expirable reading c with
    | false => simp only [Bool.and_false, Bool.not_false, Bool.and_true]
    | true =>
      by_cases hpage : c ∈ page
      · simp [hpage]
      · simp [hpage]
  · intro c hc hexpirable
    rcases List.mem_cons.mp hc with rfl | hc
    · exact hrest.ended_later h.stored (h.ended c (List.mem_singleton_self c) hexpirable)
    · exact hrest.ended c hc hexpirable
  · intro c hc hnot
    refine hrest.kept c (h.kept c hc ?_) ?_
    · rintro ⟨hmem, hexpirable⟩
      exact hnot ⟨List.mem_singleton.mp hmem ▸ List.mem_cons_self, hexpirable⟩
    · rintro ⟨hmem, hexpirable⟩
      exact hnot ⟨List.mem_cons_of_mem s hmem, hexpirable⟩

theorem recoverAll_spec (h : Stored table) {page : List GateSession}
    (hpage : ∀ c ∈ page, c ∈ currents table) (hnodup : page.Nodup) :
    ∃ rs t, recoverAll allow reading page table = .ok rs t ∧ Swept reading table t page := by
  induction page generalizing table with
  | nil =>
    refine ⟨[], table, rfl, h, ?_, fun c hc => absurd hc List.not_mem_nil, fun c hc _ => hc⟩
    intro p _
    simp
  | cons s page ih =>
    obtain ⟨hnotin, hnodup⟩ := List.nodup_cons.mp hnodup
    have hs : s ∈ currents table := hpage s List.mem_cons_self
    have hstep : ∃ r u, recover allow reading s table = .ok r u ∧ Recovered reading table u s :=
      recover_spec h hs
    obtain ⟨r, u, hrun, hrecovered⟩ := hstep
    have hswept : Swept reading table u [s] := hrecovered.swept h hs
    have hrest : ∀ c ∈ page, c ∈ currents u := by
      intro c hc
      refine hswept.kept c (hpage c (List.mem_cons_of_mem s hc)) ?_
      rintro ⟨hmem, -⟩
      exact hnotin (List.mem_singleton.mp hmem ▸ hc)
    obtain ⟨rs, t, hruns, hsweptRest⟩ := ih hswept.stored hrest hnodup
    refine ⟨r :: rs, t, ?_, hswept.cons hsweptRest⟩
    rw [recoverAll]
    exact run_bind_eq_ok.mpr ⟨r, u, hrun, run_bind_eq_ok.mpr ⟨rs, t, hruns, rfl⟩⟩

end Steps

section Passes

def dueList (now : Nat) (table : GateTable) : List GateSession :=
  orderBy dueKey ((currents table).filter (dueRow (isoformat now)))

def stuck (reading : Str) (s : GateSession) : Bool := !expirable reading s

variable {allow : Bool} {reading : Str} {table : GateTable} {now limit : Nat}

theorem mem_dueList {s : GateSession} :
    s ∈ dueList now table ↔ s ∈ currents table ∧ dueRow (isoformat now) s = true := by
  rw [dueList, mem_orderBy, List.mem_filter]

theorem dueRow_terminal {text : Str} {s : GateSession} (h : s.status.terminal = true) :
    dueRow text s = false := by
  have hactive : s.status.activeLease = false := by
    cases hstatus : s.status <;> rw [hstatus] at h <;> first | rfl | cases h
  rw [dueRow, hactive, Bool.false_and]

theorem Stored.dueKey_inj (h : Stored table) :
    ∀ s ∈ currents table, ∀ t ∈ currents table, dueKey s = dueKey t → s = t := by
  intro s hs t ht heq
  exact h.session_unique hs ht (congrArg (fun k => (ofLex (ofLex k).2).2) heq)

theorem Stored.currents_nodup (h : Stored table) : (currents table).Nodup := by
  have hids : ((currents table).map (fun s => s.sessionId)).Nodup := by
    rw [currents, List.map_map]
    exact h.ids
  exact hids.of_map _

theorem Stored.dueList_nodup (h : Stored table) : (dueList now table).Nodup :=
  (orderBy_perm _ _).nodup_iff.mpr (h.currents_nodup.filter _)

theorem discover_eq (h : Stored table) (hnow : now ≤ maxInstant)
    (hreading : instant? reading = some (now : Int)) (h₁ : 1 ≤ limit) (h₂ : limit ≤ 10000) :
    discover reading limit table = .ok ((dueList now table).take limit) := by
  have hlimit : ¬((limit : Int) < 1 ∨ (10000 : Int) < limit) := by omega
  have hlength : ¬((limit : Int) < ((dueList now table).take limit).length) := by
    rw [List.length_take]
    omega
  have hshape : ¬(¬(((dueList now table).take limit).map (fun c => c.sessionId)).Nodup ∨
      ∃ c ∈ (dueList now table).take limit, c.status.activeLease = false) := by
    rw [not_or, not_not]
    have hmem : ∀ c ∈ (dueList now table).take limit, c ∈ dueList now table :=
      fun c hc => List.mem_of_mem_take hc
    refine ⟨?_, ?_⟩
    · refine List.Nodup.map_on ?_ (h.dueList_nodup.sublist (List.take_sublist _ _))
      intro c hc d hd heq
      exact h.session_unique (mem_dueList.mp (hmem c hc)).1 (mem_dueList.mp (hmem d hd)).1 heq
    · rintro ⟨c, hc, hactive⟩
      have hdue := (mem_dueList.mp (hmem c hc)).2
      rw [dueRow, hactive] at hdue
      cases hdue
  rw [discover, raiseIf_of_not hlimit, listDue_of_instant hnow hreading h₁ h₂]
  show (do
    raiseIf ((limit : Int) < ((dueList now table).take limit).length) invalidCandidates
    raiseIf (¬(((dueList now table).take limit).map (fun c => c.sessionId)).Nodup ∨
      ∃ c ∈ (dueList now table).take limit, c.status.activeLease = false) invalidCandidates
    return (dueList now table).take limit) = Except.ok ((dueList now table).take limit)
  rw [raiseIf_of_not hlength, raiseIf_of_not hshape]
  rfl

theorem Swept.dueList_eq {t : GateTable} (h : Swept reading table t ((dueList now table).take limit))
    (hstored : Stored table) :
    dueList now t = BoundedPass.pass (stuck reading) limit (dueList now table) := by
  have hinj : ∀ a ∈ (currents table).filter (dueRow (isoformat now)),
      ∀ b ∈ (currents table).filter (dueRow (isoformat now)), dueKey a = dueKey b → a = b :=
    fun a ha b hb => hstored.dueKey_inj a (List.mem_of_mem_filter ha) b (List.mem_of_mem_filter hb)
  rw [← BoundedPass.filter_eq_pass _ _ hstored.dueList_nodup, dueList,
    h.left _ (fun _ => dueRow_terminal), ← List.filter_filter, List.filter_comm,
    orderBy_filter _ hinj]
  simp only [stuck, Bool.not_not]
  rfl

theorem runOnce_spec (h : Stored table) (hnow : now ≤ maxInstant)
    (hreading : instant? reading = some (now : Int)) (h₁ : 1 ≤ limit) (h₂ : limit ≤ 10000) :
    ∃ rs t, runOnce allow reading limit table = .ok rs t ∧
      Swept reading table t ((dueList now table).take limit) := by
  have hpage : ∀ c ∈ (dueList now table).take limit, c ∈ currents table :=
    fun c hc => (mem_dueList.mp (List.mem_of_mem_take hc)).1
  have hall : ∃ rs t, recoverAll allow reading ((dueList now table).take limit) table = .ok rs t ∧
      Swept reading table t ((dueList now table).take limit) :=
    recoverAll_spec h hpage (h.dueList_nodup.sublist (List.take_sublist _ _))
  obtain ⟨rs, t, hrun, hswept⟩ := hall
  refine ⟨rs, t, ?_, hswept⟩
  exact run_bind_eq_ok.mpr ⟨_, table,
    run_inspect_eq_ok.mpr ⟨discover_eq h hnow hreading h₁ h₂, rfl⟩, hrun⟩

theorem ended_afterPasses (h : Stored table) (hnow : now ≤ maxInstant)
    (hreading : instant? reading = some (now : Int)) (h₁ : 1 ≤ limit) (h₂ : limit ≤ 10000) (k : Nat)
    {sessionId : Str} (hended : Ended table sessionId) :
    Ended (afterPasses allow reading limit table k) sessionId := by
  induction k generalizing table with
  | zero => exact hended
  | succ k ih =>
    have hpass : ∃ rs t, runOnce allow reading limit table = .ok rs t ∧
        Swept reading table t ((dueList now table).take limit) :=
      runOnce_spec h hnow hreading h₁ h₂
    obtain ⟨rs, t, hrun, hswept⟩ := hpass
    rw [afterPasses, hrun]
    exact ih hswept.stored (hswept.ended_later h hended)

structure Passed (reading : Str) (now limit : Nat) (table t : GateTable) (k : Nat) : Prop where
  stored : Stored t
  due : dueList now t = (BoundedPass.pass (stuck reading) limit)^[k] (dueList now table)
  settled : ∀ s ∈ currents table, s ∈ currents t ∨ expirable reading s = true ∧ Ended t s.sessionId

theorem afterPasses_spec (h : Stored table) (hnow : now ≤ maxInstant)
    (hreading : instant? reading = some (now : Int)) (h₁ : 1 ≤ limit) (h₂ : limit ≤ 10000) (k : Nat) :
    Passed reading now limit table (afterPasses allow reading limit table k) k := by
  induction k generalizing table with
  | zero => exact ⟨h, rfl, fun s hs => .inl hs⟩
  | succ k ih =>
    have hpass : ∃ rs t, runOnce allow reading limit table = .ok rs t ∧
        Swept reading table t ((dueList now table).take limit) :=
      runOnce_spec h hnow hreading h₁ h₂
    obtain ⟨rs, t, hrun, hswept⟩ := hpass
    have hstate : finalState (runOnce allow reading limit table) = t := by rw [hrun]; rfl
    rw [afterPasses, hstate]
    have hlater := ih hswept.stored
    refine ⟨hlater.stored, ?_, ?_⟩
    · rw [hlater.due, hswept.dueList_eq h, Function.iterate_succ_apply]
    · intro s hs
      by_cases hmoved : s ∈ (dueList now table).take limit ∧ expirable reading s = true
      · have hended : Ended t s.sessionId := hswept.ended s hmoved.1 hmoved.2
        exact .inr ⟨hmoved.2, ended_afterPasses hswept.stored hnow hreading h₁ h₂ k hended⟩
      · exact hlater.settled s (hswept.kept s hs hmoved)

theorem not_ended_of_current (h : Stored table) {s : GateSession} (hs : s ∈ currents table)
    (hlive : s.status.terminal = false) : ¬Ended table s.sessionId := by
  rintro ⟨c, hselect, hterminal⟩
  obtain ⟨hc, hid⟩ := (selectCurrent_iff h).mp hselect
  rw [h.session_unique hc hs hid, hlive] at hterminal
  cases hterminal

theorem terminal_of_due {text : Str} {s : GateSession} (h : dueRow text s = true) :
    s.status.terminal = false := by
  cases hterminal : s.status.terminal with
  | false => rfl
  | true =>
    rw [dueRow_terminal hterminal] at h
    cases h

theorem afterPasses_blocked (h : Stored table) (hnow : now ≤ maxInstant)
    (hreading : instant? reading = some (now : Int)) (h₁ : 1 ≤ limit) (h₂ : limit ≤ 10000)
    {before after : List GateSession} {s : GateSession} (hdue : dueList now table = before ++ s :: after)
    (hblocked : expirable reading s = false ∨ limit ≤ (before.filter (stuck reading)).length) (k : Nat) :
    ¬Ended (afterPasses allow reading limit table k) s.sessionId := by
  have hpassed : Passed reading now limit table (afterPasses allow reading limit table k) k :=
    afterPasses_spec h hnow hreading h₁ h₂ k
  have hmem : s ∈ dueList now table := by
    rw [hdue]
    exact List.mem_append_right _ List.mem_cons_self
  obtain ⟨hs, hrow⟩ := mem_dueList.mp hmem
  have hlive : s.status.terminal = false := terminal_of_due hrow
  have hkept : s ∈ currents (afterPasses allow reading limit table k) := by
    rcases hblocked with hstuck | hlong
    · rcases hpassed.settled s hs with hkept | ⟨hexpirable, -⟩
      · exact hkept
      · rw [hstuck] at hexpirable
        cases hexpirable
    · have hstays : ∃ before', (BoundedPass.pass (stuck reading) limit)^[k] (before ++ s :: after) =
          before' ++ s :: after :=
        BoundedPass.iterate_of_blocked (stuck reading) limit hlong k
      obtain ⟨before', hafter⟩ := hstays
      have hlisted : s ∈ dueList now (afterPasses allow reading limit table k) := by
        rw [hpassed.due, hdue, hafter]
        exact List.mem_append_right _ List.mem_cons_self
      exact (mem_dueList.mp hlisted).1
  exact not_ended_of_current hpassed.stored hkept hlive

theorem recovery_worker_progress (table : GateTable) (hreach : Reachable table) (allow : Bool)
    (now : Nat) (hnow : now ≤ maxInstant) (reading : Str)
    (hreading : instant? reading = some (now : Int)) (limit : Nat) (h₁ : 1 ≤ limit)
    (h₂ : limit ≤ 10000) (before after : List GateSession) (s : GateSession)
    (hdue : dueList now table = before ++ s :: after) :
    (∃ k, Ended (afterPasses allow reading limit table k) s.sessionId) ↔
      expirable reading s = true ∧ (before.filter (stuck reading)).length < limit := by
  have hstored := hreach.stored
  constructor
  · rintro ⟨k, hended⟩
    by_contra hnot
    refine afterPasses_blocked hstored hnow hreading h₁ h₂ hdue ?_ k hended
    rcases not_and_or.mp hnot with hstuck | hfull
    · exact .inl (Bool.eq_false_iff.mpr hstuck)
    · exact .inr (not_lt.mp hfull)
  · rintro ⟨hexpirable, hroom⟩
    have hfree : stuck reading s = false := by rw [stuck, hexpirable]; rfl
    have hnodup : (before ++ s :: after).Nodup := hdue ▸ hstored.dueList_nodup
    obtain ⟨k, hk⟩ := BoundedPass.exists_served (stuck reading) limit hfree hnodup hroom
    refine ⟨k, ?_⟩
    have hpassed : Passed reading now limit table (afterPasses allow reading limit table k) k :=
      afterPasses_spec hstored hnow hreading h₁ h₂ k
    have hmem : s ∈ dueList now table := by
      rw [hdue]
      exact List.mem_append_right _ List.mem_cons_self
    obtain ⟨hs, hrow⟩ := mem_dueList.mp hmem
    rcases hpassed.settled s hs with hkept | ⟨-, hended⟩
    · rw [← hdue, ← hpassed.due] at hk
      exact absurd (mem_dueList.mpr ⟨hkept, hrow⟩) hk
    · exact hended

def otherIdentity : SessionIdentity :=
  { sampleIdentity with
    sessionId := lit "session-2"
    traceId := lit "trace-2"
    runId := lit "run-2"
    idempotencyKey := lit "key-2" }

def crowdedCalls : List (Str × GateCall) :=
  [(lit "2026-01-01T00:00:00Z", .createOrGet sampleIdentity 600),
    (lit "2026-01-01T00:00:01Z", .transition (lit "session-1") .prepared 1 (some 59)
      { retrievalSnapshotId := some (lit "snapshot-1")
        systemGateEvaluationId := some (lit "evaluation-1") }),
    (lit "2026-01-01T00:00:02Z", .transition (lit "session-1") .awaitingDecision 2 none {}),
    (lit "2026-01-01T00:00:03Z", .transition (lit "session-1") .decided 3 none
      { semanticGateAttemptIds := some [lit "attempt-1"]
        decisionId := some (lit "attempt-1") }),
    (lit "2026-01-01T00:00:04Z", .createOrGet otherIdentity 600),
    (lit "2026-01-01T00:00:05Z", .transition (lit "session-2") .prepared 1 (some 55)
      { retrievalSnapshotId := some (lit "snapshot-2")
        systemGateEvaluationId := some (lit "evaluation-2") })]

def crowdedTable : GateTable := afterCalls true [] crowdedCalls

theorem crowdedTable_reachable : Reachable crowdedTable := ⟨true, crowdedCalls, rfl⟩

def crowdedSessions (reading : Str) : List (Str × GateSessionStatus × Bool) :=
  (dueList (micros reading) crowdedTable).map (fun s => (s.sessionId, s.status, expirable reading s))

set_option maxRecDepth 20000 in
theorem crowdedSessions_eq : crowdedSessions (lit "2026-01-01T00:11:00Z") =
    [(lit "session-1", .decided, false), (lit "session-2", .prepared, true)] := by
  decide +kernel

theorem crowdedTable_due : ∃ a b,
    dueList (micros (lit "2026-01-01T00:11:00Z")) crowdedTable = [a] ++ b :: [] ∧
      expirable (lit "2026-01-01T00:11:00Z") a = false ∧
      b.sessionId = lit "session-2" ∧ expirable (lit "2026-01-01T00:11:00Z") b = true := by
  have h := crowdedSessions_eq
  rw [crowdedSessions, List.map_eq_cons_iff] at h
  obtain ⟨a, l, hlist, ha, hl⟩ := h
  obtain ⟨b, m, rfl, hb, hm⟩ := List.map_eq_cons_iff.mp hl
  obtain rfl := List.map_eq_nil_iff.mp hm
  simp only [Prod.mk.injEq] at ha hb
  exact ⟨a, b, hlist, ha.2.2, hb.1, hb.2.2⟩

set_option maxRecDepth 20000 in
theorem recovery_worker_reaches_second : ∃ k, Ended
    (afterPasses false (lit "2026-01-01T00:11:00Z") 2 crowdedTable k) (lit "session-2") := by
  obtain ⟨a, b, hdue, -, hid, hexpirable⟩ := crowdedTable_due
  rw [← hid]
  refine (recovery_worker_progress crowdedTable crowdedTable_reachable false _ (by decide +kernel)
    (lit "2026-01-01T00:11:00Z") (by decide +kernel) 2 (by decide) (by decide) [a] [] b hdue).mpr
    ⟨hexpirable, ?_⟩
  exact Nat.lt_succ_of_le (List.length_filter_le _ _)

set_option maxRecDepth 20000 in
theorem recovery_worker_starves_second : Reachable crowdedTable ∧
    (∃ s ∈ dueList (micros (lit "2026-01-01T00:11:00Z")) crowdedTable,
      s.sessionId = lit "session-2" ∧ expirable (lit "2026-01-01T00:11:00Z") s = true) ∧
    ∀ k, ¬Ended (afterPasses false (lit "2026-01-01T00:11:00Z") 1 crowdedTable k)
      (lit "session-2") := by
  obtain ⟨a, b, hdue, hstuck, hid, hexpirable⟩ := crowdedTable_due
  refine ⟨crowdedTable_reachable, ⟨b, ?_, hid, hexpirable⟩, ?_⟩
  · rw [hdue]
    exact List.mem_append_right _ List.mem_cons_self
  · intro k
    have hfull : 1 ≤ ([a].filter (stuck (lit "2026-01-01T00:11:00Z"))).length := by
      rw [List.filter_cons_of_pos (by rw [stuck, hstuck]; rfl)]
      exact Nat.le_add_left 1 _
    rw [← hid]
    exact afterPasses_blocked crowdedTable_reachable.stored (by decide)
      (by decide) le_rfl (by decide) hdue (.inr hfull) k

end Passes

end GateRepository

end TraceBackedMemory
