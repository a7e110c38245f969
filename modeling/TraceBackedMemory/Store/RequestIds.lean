import TraceBackedMemory.Store.Atomicity

namespace TraceBackedMemory

open Text Raising

variable {py : Python} {s s' : Store}

structure FreshRequest (s : Store) (requestId : Str) : Prop where
  not_pending : s.pendingGateRequests.get? requestId = none
  not_finalized : requestId ∉ s.finalizedGateRequestIds
  not_logged : ∀ log ∈ s.usageLogs, log.requestId ≠ some requestId

structure RequestUsable (s : Store) (r : MemoryGateRequest) (s' : Store) : Prop where
  fresh : FreshRequest s r.requestId
  accepted : s'.checkRequest r = .ok ()
  released : ∃ s'', cancelMemoryRequest r s' = .ok () s'' ∧
    s''.pendingGateRequests = s.pendingGateRequests

theorem prepared_fresh (h : Sound py s) {a : PrepareArguments} {r : MemoryGateRequest}
    (hr : s.preparedRequest py a = .ok r) : FreshRequest s r.requestId := by
  obtain ⟨hid, _⟩ := preparedRequest_id hr
  rw [hid]
  refine ⟨?_, fun hf => next_not_issued (h.requests.finalized _ hf), fun log hlog =>
    next_not_logged h.logs hlog⟩
  cases hp : s.pendingGateRequests.get?
      (requestIdText s.gateRequestSessionId s.nextGateRequestNumber) with
  | none => rfl
  | some q => exact absurd (h.requests.pending _ q hp).issued next_not_issued

theorem checkRequest_eq_ok_iff {r : MemoryGateRequest} {n : Nat}
    (hid : r.requestId = requestIdText s.gateRequestSessionId n)
    (htok : r.storeToken = s.storeToken) : s.checkRequest r = .ok () ↔ n < 10 ^ 82 := by
  rw [← requestIdText_fits_iff s.gateRequestSessionId n, ← hid]
  simp only [Store.checkRequest, validateRequiredString, tooLong, bind_eq_ok, exists_unit,
    raiseIf_eq_ok, htok, hid, blank_requestIdText]
  simp

theorem cancelMemoryRequest_eq_ok {r p : MemoryGateRequest} (hc : s.checkRequest r = .ok ())
    (hf : r.requestId ∉ s.finalizedGateRequestIds)
    (hp : s.pendingGateRequests.get? r.requestId = some p) (hsame : r.same p = true) :
    cancelMemoryRequest r s = .ok () { s with
      pendingGateRequests := s.pendingGateRequests.erase r.requestId } := by
  have hpend := checkPending_eq_ok.mpr ⟨hf, p, hp, hsame⟩
  simp only [cancelMemoryRequest, popPending, run_bind_eq_ok, run_inspect_eq_ok, run_assign_eq_ok,
    Store.checkCancellation, seq_eq_ok, demand_eq_ok]
  exact ⟨(), s, ⟨⟨hc, hpend⟩, rfl⟩, p, s, ⟨hp, rfl⟩, rfl⟩

theorem requestUsable_iff (h : Sound py s) {a : PrepareArguments} {r : MemoryGateRequest}
    (hr : prepareMemory py a s = .ok r s') :
    RequestUsable s r s' ↔ s.nextGateRequestNumber < 10 ^ 82 := by
  obtain ⟨hp, rfl⟩ := prepareMemory_effect hr
  obtain ⟨hid, htok⟩ := preparedRequest_id hp
  have hfresh := prepared_fresh h hp
  have hcheck : Store.checkRequest { s with
      nextGateRequestNumber := s.nextGateRequestNumber + 1
      pendingGateRequests := s.pendingGateRequests.set r.requestId r } r = .ok () ↔
        s.nextGateRequestNumber < 10 ^ 82 := checkRequest_eq_ok_iff hid htok
  have hget : (s.pendingGateRequests.set r.requestId r).get? r.requestId = some r := by simp
  have hsame : r.same r = true := by simp [MemoryGateRequest.same]
  constructor
  · exact fun hu => hcheck.mp hu.accepted
  · intro hlt
    have hok := hcheck.mpr hlt
    refine ⟨hfresh, hok, _, cancelMemoryRequest_eq_ok hok hfresh.not_finalized hget hsame, ?_⟩
    exact Dict.erase_set_of_none r hfresh.not_pending

theorem checkRequest_overlong {r : MemoryGateRequest} {n : Nat}
    (hid : r.requestId = requestIdText s.gateRequestSessionId n)
    (htok : r.storeToken = s.storeToken) (hn : 10 ^ 82 ≤ n) :
    s.checkRequest r =
      .error (.valueError (atMost (lit "request_id") (some memoryIdMaxChars))) := by
  have hlen : memoryIdMaxChars < r.requestId.length := by
    rw [hid, ← not_le, requestIdText_fits_iff]
    exact not_lt.mpr hn
  have hblank : blank r.requestId = false := by
    rw [hid]
    exact blank_requestIdText _ n
  have hlong : tooLong r.requestId (some memoryIdMaxChars) = true := decide_eq_true hlen
  rw [Store.checkRequest, validateRequiredString, raiseIf_of_not (not_not.mpr htok),
    raiseIf_of_not (by simp [hblank]), raiseIf_of hlong]
  rfl

theorem cancelMemoryRequest_overlong {a : PrepareArguments} {r : MemoryGateRequest}
    (hr : prepareMemory py a s = .ok r s') (hn : 10 ^ 82 ≤ s.nextGateRequestNumber) :
    cancelMemoryRequest r s' =
      .error (.valueError (atMost (lit "request_id") (some memoryIdMaxChars))) s' := by
  obtain ⟨hp, hs'⟩ := prepareMemory_effect hr
  obtain ⟨hid, htok⟩ := preparedRequest_id hp
  have hid' : r.requestId = requestIdText s'.gateRequestSessionId s.nextGateRequestNumber := by
    rw [hs']
    exact hid
  have htok' : r.storeToken = s'.storeToken := by
    rw [hs']
    exact htok
  rw [cancelMemoryRequest, run_bind_eq_error, run_inspect_eq_error, Store.checkCancellation,
    checkRequest_overlong hid' htok' hn]
  exact .inl ⟨rfl, rfl⟩

theorem prepared_request_usable_iff (h : Reachable py s) {a : PrepareArguments}
    {r : MemoryGateRequest} (hr : prepareMemory py a s = .ok r s') :
    FreshRequest s r.requestId ∧
      (RequestUsable s r s' ↔ s.nextGateRequestNumber < 10 ^ 82) := by
  refine ⟨?_, requestUsable_iff h.sound hr⟩
  exact prepared_fresh h.sound (prepareMemory_effect hr).1

theorem prepared_request_usable_sample : ∃ r s,
    prepareMemory asciiPython sampleRequest sampleStore = .ok r s ∧
      FreshRequest sampleStore r.requestId ∧
      (RequestUsable sampleStore r s ↔ sampleStore.nextGateRequestNumber < 10 ^ 82) := by
  obtain ⟨r, s, _, _, hp, _⟩ := sampleGate_steps
  exact ⟨r, s, hp, prepared_request_usable_iff sampleStore_reachable hp⟩

def overlongRecord : UsageLogRecord where
  log :=
    { decisionId := lit "decision_000001"
      runId := lit "run_2"
      mode := .debug
      candidateMemoryIds := []
      usedMemoryIds := []
      blockedMemoryIds := []
      reason := lit "no candidates"
      risk := .none
      recommendedInjection := .none
      traceId := some (lit "trace_2")
      context := contextEvidence sampleContext
      requestId := some (requestAffix ++ List.replicate 115 (cp '9')) }

def overlongSnapshot : Snapshot where
  traces := [liveTrace]
  usageLogs := [overlongRecord]

def overlongRun : Except Exn (Nat × Bool) := do
  let s ← fromSnapshot asciiPython sampleEnv 0 sampleSession {} overlongSnapshot
  return (s.nextGateRequestNumber, returns (prepareMemory asciiPython sampleRequest s))

set_option maxRecDepth 20000 in
theorem overlongRun_eq : overlongRun = .ok (10 ^ 115, true) := by
  decide +kernel

theorem atMost_requestId : atMost (lit "request_id") (some memoryIdMaxChars) =
    lit "request_id must be at most 128 characters" := by
  decide +kernel

theorem prepared_request_unusable : ∃ s r s',
    fromSnapshot asciiPython sampleEnv 0 sampleSession {} overlongSnapshot = .ok s ∧
      prepareMemory asciiPython sampleRequest s = .ok r s' ∧ ¬RequestUsable s r s' ∧
      cancelMemoryRequest r s' =
        .error (.valueError (lit "request_id must be at most 128 characters")) s' := by
  have hrun := overlongRun_eq
  simp only [overlongRun, bind_eq_ok, pure_eq_ok, Prod.mk.injEq] at hrun
  obtain ⟨s, hs, hnext, hret⟩ := hrun
  obtain ⟨r, s', hr⟩ := exists_of_returns hret
  refine ⟨s, r, s', hs, hr, ?_, ?_⟩
  · rw [requestUsable_iff (Reachable.loaded _ _ _ _ _ hs).sound hr, hnext]
    norm_num
  · rw [← atMost_requestId]
    refine cancelMemoryRequest_overlong hr ?_
    rw [hnext]
    norm_num

end TraceBackedMemory
