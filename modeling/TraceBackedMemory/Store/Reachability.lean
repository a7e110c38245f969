import TraceBackedMemory.Store.Invariant

namespace TraceBackedMemory

open Text Raising

variable {py : Python} {s s' : Store}

section Logs

theorem tracesExtend_refl (d : Dict Str Trace) : TracesExtend d d :=
  fun _ t h => ⟨t, h, Trace.Completes.refl t⟩

theorem memoryKnown_mono (hc : Dict.Covers s.failureCases s'.failureCases)
    (hl : Dict.Covers s.lessons s'.lessons)
    (hp : Dict.Covers s.projectPolicies s'.projectPolicies) (i : Str)
    (h : s.memoryKnown i = true) : s'.memoryKnown i = true := by
  simp only [Store.memoryKnown, Bool.or_eq_true] at h ⊢
  rcases h with (h | h) | h
  · exact .inl (.inl (hc i h))
  · exact .inl (.inr (hl i h))
  · exact .inr (hp i h)

theorem LogsSound.extend (h : LogsSound s) (hl : s'.usageLogs = s.usageLogs)
    (hi : s'.usageLogIndexes = s.usageLogIndexes)
    (hd : s.nextDecisionNumber ≤ s'.nextDecisionNumber)
    (hr : s.nextGateRequestNumber ≤ s'.nextGateRequestNumber)
    (ht : TracesExtend s.traces s'.traces)
    (hk : ∀ i, s.memoryKnown i = true → s'.memoryKnown i = true) : LogsSound s' := by
  constructor
  · intro log hlog
    rw [hl] at hlog
    exact (h.valid log hlog).extend ht hk
  · rw [hi, hl]
    exact h.index
  · intro log hlog n hn
    rw [hl] at hlog
    exact (h.decision_numbers log hlog n hn).trans_le hd
  · intro log hlog r n hq hn
    rw [hl] at hlog
    exact (h.request_numbers log hlog r n hq hn).trans_le hr

theorem logIndexEntries_append (logs : List MemoryUsageLog) (log : MemoryUsageLog) :
    logIndexEntries (logs ++ [log]) = logIndexEntries logs ++ [(log.decisionId, logs.length)] := by
  simp [logIndexEntries, List.zipIdx_append]

theorem LogsSound.appended (h : LogsSound s) {log : MemoryUsageLog} {next : Nat × Nat}
    (hv : s.LogValid log) (hn : s.nextNumbers log = .ok next) :
    LogsSound (s.appended log next) := by
  obtain ⟨hfree, hdle, hrle, hd, hr⟩ := nextNumbers_eq_ok hn
  constructor
  · intro log' hlog'
    rcases List.mem_append.mp hlog' with hlog' | hlog'
    · exact (h.valid log' hlog').extend (tracesExtend_refl s.traces) (fun _ hi => hi)
    · rw [List.mem_singleton.mp hlog']
      exact hv.extend (tracesExtend_refl s.traces) (fun _ hi => hi)
  · show (s.usageLogIndexes.set log.decisionId s.usageLogs.length).entries = _
    rw [Dict.entries_set_of_none _ hfree, h.index]
    exact (logIndexEntries_append s.usageLogs log).symm
  · intro log' hlog' n hn'
    rcases List.mem_append.mp hlog' with hlog' | hlog'
    · exact (h.decision_numbers log' hlog' n hn').trans_le hdle
    · rw [List.mem_singleton.mp hlog'] at hn'
      exact hd n hn'
  · intro log' hlog' r n hq hn'
    rcases List.mem_append.mp hlog' with hlog' | hlog'
    · exact (h.request_numbers log' hlog' r n hq hn').trans_le hrle
    · rw [List.mem_singleton.mp hlog'] at hq
      exact hr r n hq hn'

theorem LogsSound.sealed (h : LogsSound s) {traces : Dict Str Trace} {logs : List MemoryUsageLog}
    (ht : TracesExtend s.traces traces)
    (hl : List.Forall₂ MemoryUsageLog.Seals s.usageLogs logs) :
    LogsSound { s with traces := traces, usageLogs := logs } := by
  constructor
  · intro log' hlog'
    obtain ⟨log, hlog, hs⟩ := mem_of_seals hl hlog'
    exact ((h.valid log hlog).seals hs).extend ht (fun _ hi => hi)
  · exact h.index.trans (logIndexEntries_seals hl).symm
  · intro log' hlog' n hn
    obtain ⟨log, hlog, hs⟩ := mem_of_seals hl hlog'
    rw [seals_decisionId hs] at hn
    exact h.decision_numbers log hlog n hn
  · intro log' hlog' r n hr hn
    obtain ⟨log, hlog, hs⟩ := mem_of_seals hl hlog'
    rw [seals_requestId hs] at hr
    exact h.request_numbers log hlog r n hr hn

end Logs

section Requests

structure SameRequests (s s' : Store) : Prop where
  session : s'.gateRequestSessionId = s.gateRequestSessionId
  token : s'.storeToken = s.storeToken
  next : s.nextGateRequestNumber ≤ s'.nextGateRequestNumber
  pending : s'.pendingGateRequests = s.pendingGateRequests
  finalized : s'.finalizedGateRequestIds = s.finalizedGateRequestIds

theorem Store.Issued.mono {k : Str} (h : s.Issued k)
    (hs : s'.gateRequestSessionId = s.gateRequestSessionId)
    (hn : s.nextGateRequestNumber ≤ s'.nextGateRequestNumber) : s'.Issued k := by
  obtain ⟨n, hlt, hk⟩ := h
  exact ⟨n, hlt.trans_le hn, hs ▸ hk⟩

theorem RequestsSound.mono (h : RequestsSound s) (hs : SameRequests s s')
    (hl : ∀ log' ∈ s'.usageLogs, (∃ log ∈ s.usageLogs, log'.requestId = log.requestId) ∨
      ∀ k, log'.requestId = some k → s.pendingGateRequests.get? k = none) : RequestsSound s' := by
  constructor
  · intro k r hk
    rw [hs.pending] at hk
    have hp := h.pending k r hk
    refine ⟨hp.key, hp.token.trans hs.token.symm, hp.issued.mono hs.session hs.next, ?_, ?_⟩
    · rw [hs.finalized]
      exact hp.unfinished
    · intro log' hlog' hr
      rcases hl log' hlog' with ⟨log, hlog, he⟩ | hn
      · exact hp.unlogged log hlog (he.symm.trans hr)
      · rw [hn k hr] at hk
        cases hk
  · intro k hk
    rw [hs.finalized] at hk
    exact (h.finalized k hk).mono hs.session hs.next

theorem preparedRequest_id {a : PrepareArguments} {r : MemoryGateRequest}
    (h : s.preparedRequest py a = .ok r) :
    r.requestId = requestIdText s.gateRequestSessionId s.nextGateRequestNumber ∧
      r.storeToken = s.storeToken := by
  simp only [Store.preparedRequest, bind_eq_ok, exists_unit, pure_eq_ok] at h
  obtain ⟨_, _, t, _, candidates, _, _, g, _, prompt, _, rfl⟩ := h
  exact ⟨rfl, rfl⟩

theorem next_not_issued : ¬s.Issued (requestIdText s.gateRequestSessionId s.nextGateRequestNumber) := by
  rintro ⟨n, hlt, he⟩
  exact absurd (requestIdText_inj he) hlt.ne'

theorem next_not_logged (h : LogsSound s) {log : MemoryUsageLog} (hlog : log ∈ s.usageLogs) :
    log.requestId ≠ some (requestIdText s.gateRequestSessionId s.nextGateRequestNumber) := by
  intro hr
  exact lt_irrefl _ (h.request_numbers log hlog _ _ hr (requestNumber_requestIdText _ _))

theorem RequestsSound.prepare (h : RequestsSound s) (hl : LogsSound s) {r : MemoryGateRequest}
    (hid : r.requestId = requestIdText s.gateRequestSessionId s.nextGateRequestNumber)
    (htok : r.storeToken = s.storeToken) :
    RequestsSound { s with
      nextGateRequestNumber := s.nextGateRequestNumber + 1
      pendingGateRequests := s.pendingGateRequests.set r.requestId r } := by
  constructor
  · refine Dict.forall_get?_set ?_ ?_
    · refine ⟨rfl, htok, ⟨s.nextGateRequestNumber, Nat.lt_succ_self _, hid⟩, ?_, ?_⟩
      · intro hf
        have hi := h.finalized _ hf
        rw [hid] at hi
        exact next_not_issued hi
      · intro log hlog
        rw [hid]
        exact next_not_logged hl hlog
    · intro k q hk
      have hp := h.pending k q hk
      exact ⟨hp.key, hp.token, hp.issued.mono rfl (Nat.le_succ _), hp.unfinished, hp.unlogged⟩
  · exact fun k hk => (h.finalized k hk).mono rfl (Nat.le_succ _)

theorem RequestsSound.erase (h : RequestsSound s) (k : Str) :
    RequestsSound { s with pendingGateRequests := s.pendingGateRequests.erase k } := by
  constructor
  · intro j r hj
    rw [Dict.get?_erase] at hj
    split at hj
    · cases hj
    · have hp := h.pending j r hj
      exact ⟨hp.key, hp.token, hp.issued, hp.unfinished, hp.unlogged⟩
  · exact h.finalized

theorem mem_trimFinalized {limit : Nat} {order ids : List Str} {i : Str}
    (h : i ∈ (trimFinalized limit order ids).2) : i ∈ ids := by
  induction order generalizing ids with
  | nil => exact h
  | cons r order ih =>
    unfold trimFinalized at h
    split at h
    · exact (List.mem_filter.mp (ih h)).1
    · exact h

theorem RequestsSound.finalize (h : RequestsSound s) {r p : MemoryGateRequest}
    (hp : s.pendingGateRequests.get? r.requestId = some p) {log : MemoryUsageLog} {next : Nat × Nat}
    (hr : log.requestId = some r.requestId) (hn : s.nextGateRequestNumber ≤ next.2) :
    RequestsSound ((s.appended log next).closed r.requestId) := by
  have hfin : ∀ i ∈ ((s.appended log next).closed r.requestId).finalizedGateRequestIds,
      i = r.requestId ∨ i ∈ s.finalizedGateRequestIds := by
    intro i hi
    exact List.mem_insert_iff.mp (mem_trimFinalized hi)
  constructor
  · intro k q hk
    change (s.pendingGateRequests.erase r.requestId).get? k = some q at hk
    rw [Dict.get?_erase] at hk
    split at hk
    · cases hk
    · rename_i hne
      have hq := h.pending k q hk
      refine ⟨hq.key, hq.token, hq.issued.mono rfl hn, ?_, ?_⟩
      · intro hi
        rcases hfin k hi with he | hi
        · exact hne he
        · exact hq.unfinished hi
      · intro log' hlog' hreq
        rcases List.mem_append.mp hlog' with hlog' | hlog'
        · exact hq.unlogged log' hlog' hreq
        · rw [List.mem_singleton.mp hlog', hr] at hreq
          exact hne (Option.some.inj hreq).symm
  · intro k hk
    rcases hfin k hk with rfl | hk
    · exact (h.pending _ p hp).issued.mono rfl hn
    · exact (h.finalized k hk).mono rfl hn

theorem checkPending_eq_ok {r : MemoryGateRequest} :
    s.checkPending r = .ok () ↔ r.requestId ∉ s.finalizedGateRequestIds ∧
      ∃ p, s.pendingGateRequests.get? r.requestId = some p ∧ r.same p = true := by
  simp only [Store.checkPending, bind_eq_ok, exists_unit, raiseIf_eq_ok, demand_eq_ok,
    Bool.not_eq_false]

end Requests

section Preservation

theorem Sound.complete (h : Sound py s) {traces : Dict Str Trace} {logs : List MemoryUsageLog}
    (ht : TracesCompleted py s.traces traces)
    (hl : List.Forall₂ MemoryUsageLog.Seals s.usageLogs logs) :
    Sound py { s with traces := traces, usageLogs := logs } := by
  refine ⟨h.records.complete ht, h.logs.sealed ht.extend hl, ?_⟩
  refine h.requests.mono ⟨rfl, rfl, le_rfl, rfl, rfl⟩ fun log' hlog' => ?_
  obtain ⟨log, hlog, hs⟩ := mem_of_seals hl hlog'
  exact .inl ⟨log, hlog, seals_requestId hs⟩

theorem Sound.appended (h : Sound py s) {log : MemoryUsageLog} {next : Nat × Nat}
    (hv : s.LogValid log) (hn : s.nextNumbers log = .ok next)
    (hr : ∀ k, log.requestId = some k → s.pendingGateRequests.get? k = none) :
    Sound py (s.appended log next) := by
  refine ⟨h.records, h.logs.appended hv hn, ?_⟩
  refine h.requests.mono ⟨rfl, rfl, (nextNumbers_eq_ok hn).2.2.1, rfl, rfl⟩ fun log' hlog' => ?_
  rcases List.mem_append.mp hlog' with hlog' | hlog'
  · exact .inl ⟨log', hlog', rfl⟩
  · rw [List.mem_singleton.mp hlog']
    exact .inr hr

theorem Sound.of_records (h : Sound py s) (hr : RecordsSound py s'.traces s'.traceIdsByRunId
      s'.failureCases s'.lessons s'.projectPolicies)
    (hl : s'.usageLogs = s.usageLogs) (hi : s'.usageLogIndexes = s.usageLogIndexes)
    (hd : s'.nextDecisionNumber = s.nextDecisionNumber) (hq : SameRequests s s')
    (ht : TracesExtend s.traces s'.traces) (hc : Dict.Covers s.failureCases s'.failureCases)
    (hls : Dict.Covers s.lessons s'.lessons)
    (hp : Dict.Covers s.projectPolicies s'.projectPolicies) : Sound py s' := by
  refine ⟨hr, h.logs.extend hl hi hd.ge hq.next ht (memoryKnown_mono hc hls hp), ?_⟩
  refine h.requests.mono hq fun log hlog => .inl ⟨log, ?_, rfl⟩
  rw [← hl]
  exact hlog

theorem Obsoleted.covers {α : Type} {d d' : Dict Str α} {f : α → α}
    (h : ∀ k, d'.get? k = d.get? k ∨ ∃ a, d.get? k = some a ∧ d'.get? k = some (f a)) :
    Dict.Covers d d' := by
  refine Dict.covers_of_get? fun k v hk => ?_
  rcases h k with he | ⟨a, _, ha⟩
  · exact ⟨v, he.trans hk⟩
  · exact ⟨f a, ha⟩

theorem sound_effect (h : Sound py s) (he : Effect py s s') : Sound py s' := by
  cases he with
  | recordTrace t hv hn =>
    exact h.of_records (h.records.recordTrace hv hn) rfl rfl rfl ⟨rfl, rfl, le_rfl, rfl, rfl⟩
      (tracesExtend_set hn) (.refl _) (.refl _) (.refl _)
  | complete traces logs ht hl => exact h.complete ht hl
  | addCase c hc =>
    obtain ⟨hv, hn, hl, hp, hsrc⟩ := checkNewFailureCase_eq_ok.mp hc
    exact h.of_records (h.records.addCase ⟨rfl, hv, hsrc⟩ hn hl hp) rfl rfl rfl
      ⟨rfl, rfl, le_rfl, rfl, rfl⟩ (tracesExtend_refl _) (Dict.covers_set _ _ _) (.refl _) (.refl _)
  | rewriteCase k c c' hk hc =>
    exact h.of_records (h.records.rewriteCase hk hc) rfl rfl rfl ⟨rfl, rfl, le_rfl, rfl, rfl⟩
      (tracesExtend_refl _) (Dict.covers_set _ _ _) (.refl _) (.refl _)
  | obsolete cases lessons policies ho =>
    exact h.of_records (h.records.obsolete ho) rfl rfl rfl ⟨rfl, rfl, le_rfl, rfl, rfl⟩
      (tracesExtend_refl _) (Obsoleted.covers ho.cases_at) (Obsoleted.covers ho.lessons_at)
      (Obsoleted.covers ho.policies_at)
  | addLesson l hl =>
    obtain ⟨hv, _, hc, hp, hsrc⟩ := validatedLessonCandidate_eq_ok.mp hl
    exact h.of_records (h.records.addLesson ⟨rfl, hv, hsrc⟩ hc hp) rfl rfl rfl
      ⟨rfl, rfl, le_rfl, rfl, rfl⟩ (tracesExtend_refl _) (.refl _) (Dict.covers_set _ _ _) (.refl _)
  | addPolicy p hp =>
    obtain ⟨hv, _, hc, hl⟩ := checkNewProjectPolicy_eq_ok.mp hp
    exact h.of_records (h.records.addPolicy hv hc hl) rfl rfl rfl ⟨rfl, rfl, le_rfl, rfl, rfl⟩
      (tracesExtend_refl _) (.refl _) (.refl _) (Dict.covers_set _ _ _)
  | prepare a r hr =>
    obtain ⟨hid, htok⟩ := preparedRequest_id hr
    exact ⟨h.records, h.logs.extend rfl rfl le_rfl (Nat.le_succ _) (tracesExtend_refl _)
      (fun _ hi => hi), h.requests.prepare h.logs hid htok⟩
  | cancel k =>
    exact ⟨h.records, h.logs.extend rfl rfl le_rfl le_rfl (tracesExtend_refl _) (fun _ hi => hi),
      h.requests.erase k⟩
  | log log next hv hr hn =>
    refine h.appended hv hn fun k hk => ?_
    rw [hr] at hk
    cases hk
  | finalize r log next hp hv hr hn =>
    obtain ⟨_, p, hget, _⟩ := checkPending_eq_ok.mp hp
    refine ⟨h.records, ?_, h.requests.finalize hget hr (nextNumbers_eq_ok hn).2.2.1⟩
    exact (h.logs.appended hv hn).extend rfl rfl le_rfl le_rfl (tracesExtend_refl _)
      (fun _ hi => hi)

theorem sound_effects (h : Sound py s) (he : Effects py s s') : Sound py s' := by
  induction he with
  | refl => exact h
  | tail _ hstep ih => exact sound_effect ih hstep

end Preservation

end TraceBackedMemory
