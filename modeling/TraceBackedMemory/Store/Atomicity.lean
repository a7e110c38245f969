import TraceBackedMemory.Store.Reachability

namespace TraceBackedMemory

open Text Raising

variable {py : Python} {env : Env} {s s' : Store}

section TraceOperations

theorem atomic_completeTrace (traceId : Str) (r : EvalResult) (a : CompletionArguments) :
    Atomic (completeTrace py traceId r a) :=
  atomic_inspect_bind fun _ => ((total_assign _).bind fun _ => total_pure _).atomic

theorem atomic_completeMemoryRun (traceId decisionId : Str) (r : EvalResult) (b : Bool)
    (a : CompletionArguments) : Atomic (completeMemoryRun py traceId decisionId r b a) :=
  atomic_inspect_bind fun _ => ((total_assign _).bind fun _ => (total_assign _).bind fun _ =>
    total_pure _).atomic

theorem total_writeCompletions (staged : StagedCompletions) : Total (writeCompletions staged) :=
  (total_assign _).bind fun _ => total_assign _

theorem atomic_completeMemoryRuns (results : List MemoryRunResult) :
    Atomic (completeMemoryRuns py results) :=
  atomic_inspect_bind fun _ => ((total_writeCompletions _).bind fun _ => total_pure _).atomic

theorem atomic_recoverMemoryRun (decisionId : Str) (b : Option Bool) (a : CompletionArguments) :
    Atomic (recoverMemoryRun py decisionId b a) :=
  atomic_inspect_bind fun _ => atomic_completeMemoryRun _ _ _ _ _

theorem atomic_recoverMemoryRuns (decisionIds : List Str) (attributions : Dict Str Bool) :
    Atomic (recoverMemoryRuns py decisionIds attributions) :=
  atomic_inspect_bind fun _ => ((total_writeCompletions _).bind fun _ => total_pure _).atomic

theorem atomic_recoverReadyMemoryRuns : Atomic (recoverReadyMemoryRuns py) := by
  refine atomic_inspect_bind fun ready => ?_
  split
  · exact (total_pure _).atomic
  · exact atomic_recoverMemoryRuns _ _

theorem getLast?_runs_ne (h : Sound py s) {r i : Str} {ids : List Str}
    (hr : s.traceIdsByRunId.get? r = some ids) (hn : s.traces.get? i = none) :
    ids.getLast? ≠ some i := by
  intro hi
  have hc := h.records.runs_at r ids i hr (List.mem_of_getLast? hi)
  rw [Dict.contains_iff, hn] at hc
  obtain ⟨_, hc⟩ := hc
  cases hc

theorem recordTrace_raised (h : Sound py s) {t : Trace} {e : Exn}
    (hr : recordTrace py env t s = .error e s') : s' = s := by
  simp only [recordTrace, Env.indexWrite, run_bind_eq_error, run_bind_eq_ok, run_inspect_eq_error,
    run_inspect_eq_ok, run_assign_eq_error, run_assign_eq_ok, run_undoing_eq_error,
    run_undoing_eq_ok, run_pure_eq_error, and_false, exists_false, or_false, false_or] at hr
  rcases hr with ⟨_, rfl⟩ | ⟨⟨⟩, _, ⟨hc, rfl⟩, ⟨hids, _⟩ | ⟨ids, _, ⟨hids, rfl⟩, ⟨⟩, _, rfl, _, ⟨_, rfl⟩,
    rfl⟩⟩
  · rfl
  · cases hids
  · cases hids
    simp only [Store.checkNewTrace, seq_eq_ok, raiseIf_eq_ok, Bool.not_eq_true,
      Dict.contains_eq_false] at hc
    rw [Dict.erase_set_of_none t hc.2]
    cases hg : s.traceIdsByRunId.get? t.runId with
    | none => simp only [Dict.erase_of_none hg]
    | some ids => simp only [Option.getD_some, getLast?_runs_ne h hg hc.2, if_false]

end TraceOperations

section MemoryOperations

theorem atomic_addFailureCase (c : FailureCase) : Atomic (addFailureCase c) :=
  atomic_inspect_bind fun _ => ((total_assign _).bind fun _ => total_pure _).atomic

theorem atomic_reviewFailureCase (caseId : Str) (r : CaseReview) :
    Atomic (reviewFailureCase env caseId r) :=
  atomic_inspect_bind fun _ => ((total_assign _).bind fun _ => total_pure _).atomic

theorem atomic_verifyFailureCase (caseId : Str) (v : CaseVerification) :
    Atomic (verifyFailureCase caseId v) :=
  atomic_inspect_bind fun _ => ((total_assign _).bind fun _ => total_pure _).atomic

theorem atomic_obsoleteFailureCase (caseId : Str) : Atomic (obsoleteFailureCase py caseId) := by
  refine atomic_inspect_bind fun c => ?_
  split
  · exact (total_pure _).atomic
  · exact atomic_inspect_bind fun _ => ((total_assign _).bind fun _ => (total_assign _).bind fun _ =>
      total_pure _).atomic

theorem atomic_addLesson (l : Lesson) : Atomic (addLesson py l) :=
  atomic_inspect_bind fun _ => ((total_assign _).bind fun _ => total_pure _).atomic

theorem atomic_obsoleteLesson (lessonId : Str) : Atomic (obsoleteLesson py lessonId) := by
  refine atomic_inspect_bind fun l => ?_
  split
  · exact (total_pure _).atomic
  · exact atomic_inspect_bind fun _ => ((total_assign _).bind fun _ => total_pure _).atomic

theorem atomic_addProjectPolicy (p : ProjectPolicy) : Atomic (addProjectPolicy py p) :=
  atomic_inspect_bind fun _ => ((total_assign _).bind fun _ => total_pure _).atomic

theorem atomic_obsoleteProjectPolicy (policyId : Str) :
    Atomic (obsoleteProjectPolicy py policyId) := by
  refine atomic_inspect_bind fun p => ?_
  split
  · exact (total_pure _).atomic
  · exact atomic_inspect_bind fun _ => ((total_assign _).bind fun _ => total_pure _).atomic

theorem atomic_loadLessonsYaml (source : Except Exn Str) (maxLessons : Option Nat) :
    Atomic (loadLessonsYaml py source maxLessons) :=
  atomic_inspect_bind fun _ => ((total_assign _).bind fun _ => total_pure _).atomic

theorem requestedIds_mem {requests : List MemoryObsolescenceRequest} {r : MemoryObsolescenceRequest}
    (h : r ∈ requests) : r.memoryId ∈ requestedIds r.memoryKind requests :=
  List.mem_map.mpr ⟨r, List.mem_filter.mpr ⟨h, by simp⟩, rfl⟩

theorem obsoletedMemories_memory? {requests : List MemoryObsolescenceRequest}
    {r : MemoryObsolescenceRequest} (hr : r ∈ requests) (hc : s.checkRequested r = .ok ()) :
    ∃ m, (s.obsoletedMemories requests).memory? r = some m := by
  have hid := requestedIds_mem hr
  unfold Store.checkRequested at hc
  cases hk : r.memoryKind with
  | failureCase =>
    simp only [hk, bind_eq_ok] at hc hid
    obtain ⟨c, hc, _⟩ := hc
    simp [ObsoletedMemories.memory?, Store.obsoletedMemories, hk, Dict.get?_mapValues,
      Dict.get?_filterEntries, storedRecord_eq_ok hc, hid]
  | lesson =>
    simp only [hk, bind_eq_ok] at hc hid
    obtain ⟨l, hl, _⟩ := hc
    simp [ObsoletedMemories.memory?, Store.obsoletedMemories, hk, Dict.get?_mapValues,
      Dict.get?_filterEntries, storedRecord_eq_ok hl, hid]
  | projectPolicy =>
    simp only [hk, bind_eq_ok] at hc hid
    obtain ⟨p, hp, _⟩ := hc
    simp [ObsoletedMemories.memory?, Store.obsoletedMemories, hk, Dict.get?_mapValues,
      Dict.get?_filterEntries, storedRecord_eq_ok hp, hid]

theorem atomic_obsoleteMemories (requests : List MemoryObsolescenceRequest) :
    Atomic (obsoleteMemories py requests) := by
  intro s e s' h
  simp only [obsoleteMemories, run_bind_eq_error, run_inspect_eq_error, run_inspect_eq_ok,
    run_assign_eq_error, run_assign_eq_ok, false_or] at h
  rcases h with ⟨_, rfl⟩ | ⟨o, _, ⟨ho, rfl⟩, ⟨⟩, _, rfl, ⟨⟩, _, rfl, ⟨⟩, _, rfl, herr, _⟩
  · rfl
  · simp only [Store.checkObsolescence, bind_eq_ok, exists_unit, pure_eq_ok] at ho
    obtain ⟨_, hreq, _, _, _, rfl⟩ := ho
    rw [checkEach_eq_ok] at hreq
    obtain ⟨ms, hms⟩ := collect_total (f := fun r => demand
      ((s.obsoletedMemories requests).memory? r) (Exn.keyError r.memoryId)) (l := requests)
      fun r hr => by
        obtain ⟨m, hm⟩ := obsoletedMemories_memory? hr (hreq r hr)
        exact ⟨m, demand_eq_ok.mpr hm⟩
    rw [hms] at herr
    cases herr

end MemoryOperations

section GateOperations

theorem atomic_prepareMemory (a : PrepareArguments) : Atomic (prepareMemory py a) :=
  atomic_inspect_bind fun _ => ((total_assign _).bind fun _ => (total_assign _).bind fun _ =>
    total_pure _).atomic

theorem atomic_appendUsageLog (log : MemoryUsageLog) : Atomic (appendUsageLog env log) := by
  intro s e s' h
  simp only [appendUsageLog, Env.indexWrite, run_bind_eq_error, run_bind_eq_ok,
    run_inspect_eq_error, run_inspect_eq_ok, run_assign_eq_error, run_assign_eq_ok,
    run_undoing_eq_error, run_undoing_eq_ok, and_false, exists_false, or_false, false_or] at h
  rcases h with ⟨_, rfl⟩ | ⟨next, _, ⟨_, rfl⟩, ⟨hi, _⟩ | ⟨i, _, ⟨hi, rfl⟩, ⟨⟩, _, rfl, _, ⟨_, rfl⟩, rfl⟩⟩
  · rfl
  · cases hi
  · simp

theorem atomic_popPending (k : Str) : Atomic (popPending k) :=
  atomic_inspect_bind fun _ => (total_assign _).atomic

theorem atomic_cancelMemoryRequest (r : MemoryGateRequest) : Atomic (cancelMemoryRequest r) :=
  atomic_inspect_bind fun _ => atomic_popPending r.requestId

theorem atomic_logDecision (a : LogArguments) : Atomic (logDecision py env a) :=
  atomic_inspect_bind fun _ => (atomic_appendUsageLog _).bind_of_total fun _ => total_pure _

theorem atomic_recordDecisionOutcome (decisionId : Str) (r : EvalResult) (b : Bool) :
    Atomic (recordDecisionOutcome decisionId r b) :=
  atomic_inspect_bind fun _ => ((total_assign _).bind fun _ => total_pure _).atomic

theorem popPending_total {k : Str} {p : MemoryGateRequest} {e : Exn}
    (hp : s.pendingGateRequests.get? k = some p) : popPending k s ≠ .error e s' := by
  intro h
  simp only [popPending, run_bind_eq_error, run_inspect_eq_error, run_assign_eq_error, and_false,
    exists_false, or_false, hp, demand] at h
  cases h.1

theorem atomic_finalizeMemory (a : FinalizeArguments) : Atomic (finalizeMemory py env a) := by
  intro s e s' h
  simp only [finalizeMemory, run_bind_eq_error, run_inspect_eq_error, run_inspect_eq_ok,
    run_assign_eq_error, run_pure_eq_error, and_false, exists_false, or_false] at h
  rcases h with ⟨_, rfl⟩ | ⟨f, _, ⟨hf, rfl⟩, happ | ⟨⟨⟩, t, happ, hpop⟩⟩
  · rfl
  · exact atomic_appendUsageLog _ _ _ _ happ
  · obtain ⟨next, _, rfl⟩ := appendUsageLog_effect happ
    obtain ⟨_, p, hp, _⟩ := checkPending_eq_ok.mp (finalization_log hf).1
    exact absurd hpop (popPending_total (s := s.appended f.log next) hp)

end GateOperations

theorem exec_raised (h : Sound py s) {op : Operation} {e : Exn}
    (hr : exec py env op s = .error e s') : s' = s := by
  cases op <;> simp only [exec, run_map_eq_error] at hr
  case recordTrace => exact recordTrace_raised h hr
  case completeTrace => exact atomic_completeTrace _ _ _ _ _ _ hr
  case completeMemoryRun => exact atomic_completeMemoryRun _ _ _ _ _ _ _ _ hr
  case completeMemoryRuns => exact atomic_completeMemoryRuns _ _ _ _ hr
  case recoverMemoryRun => exact atomic_recoverMemoryRun _ _ _ _ _ _ hr
  case recoverMemoryRuns => exact atomic_recoverMemoryRuns _ _ _ _ _ hr
  case recoverReadyMemoryRuns => exact atomic_recoverReadyMemoryRuns _ _ _ hr
  case addFailureCase => exact atomic_addFailureCase _ _ _ _ hr
  case reviewFailureCase => exact atomic_reviewFailureCase _ _ _ _ _ hr
  case verifyFailureCase => exact atomic_verifyFailureCase _ _ _ _ _ hr
  case obsoleteFailureCase => exact atomic_obsoleteFailureCase _ _ _ _ hr
  case addLesson => exact atomic_addLesson _ _ _ _ hr
  case obsoleteLesson => exact atomic_obsoleteLesson _ _ _ _ hr
  case addProjectPolicy => exact atomic_addProjectPolicy _ _ _ _ hr
  case obsoleteProjectPolicy => exact atomic_obsoleteProjectPolicy _ _ _ _ hr
  case obsoleteMemories => exact atomic_obsoleteMemories _ _ _ _ hr
  case loadLessonsYaml => exact atomic_loadLessonsYaml _ _ _ _ _ hr
  case prepareMemory => exact atomic_prepareMemory _ _ _ _ hr
  case finalizeMemory => exact atomic_finalizeMemory _ _ _ _ hr
  case cancelMemoryRequest => exact atomic_cancelMemoryRequest _ _ _ _ hr
  case logDecision => exact atomic_logDecision _ _ _ _ hr
  case recordDecisionOutcome => exact atomic_recordDecisionOutcome _ _ _ _ _ _ hr

theorem stepStore_effects (h : Sound py s) (c : Env × Operation) :
    Effects py s (stepStore py s c) := by
  unfold stepStore
  cases hr : exec py c.1 c.2 s with
  | ok r s' => exact exec_effects hr
  | error e s' =>
    cases exec_raised h hr
    exact .refl

theorem runStore_effects (h : Sound py s) (calls : List (Env × Operation)) :
    Effects py s (runStore py s calls) := by
  induction calls generalizing s with
  | nil => exact .refl
  | cons c calls ih =>
    have hc := stepStore_effects h c
    exact hc.trans (ih (sound_effects h hc))

section Loading

def Quiet (py : Python) (s : Store) : Prop := Sound py s ∧ s.pendingGateRequests = Dict.empty

theorem loadUsageLog_eq_ok {isV2 : Bool} {r : UsageLogRecord} {u : Unit} :
    loadUsageLog py env isV2 r s = .ok u s' ↔ ∃ log, s.snapshotLog py isV2 r = .ok log ∧
      env.interrupted = false ∧ ∃ next, s.nextNumbers log = .ok next ∧ s' = s.appended log next := by
  simp only [loadUsageLog, run_bind_eq_ok, run_inspect_eq_ok, appendUsageLog_eq_ok]
  constructor
  · rintro ⟨log, _, ⟨hl, rfl⟩, hr⟩
    exact ⟨log, hl, hr⟩
  · rintro ⟨log, hl, hr⟩
    exact ⟨log, s, ⟨hl, rfl⟩, hr⟩

theorem snapshotLog_valid {isV2 : Bool} {r : UsageLogRecord} {log : MemoryUsageLog}
    (h : s.snapshotLog py isV2 r = .ok log) : s.LogValid log := by
  simp only [Store.snapshotLog, bind_eq_ok, exists_unit, pure_eq_ok] at h
  obtain ⟨log', _, h₁, h₂, h₃, rfl⟩ := h
  exact ⟨h₁, h₂, h₃⟩

theorem quiet_loadUsageLog {isV2 : Bool} {r : UsageLogRecord} {u : Unit} (h : Quiet py s)
    (hr : loadUsageLog py env isV2 r s = .ok u s') : Quiet py s' := by
  obtain ⟨log, hl, _, next, hn, rfl⟩ := loadUsageLog_eq_ok.mp hr
  refine ⟨h.1.appended (snapshotLog_valid hl) hn fun k _ => ?_, h.2⟩
  rw [h.2]
  rfl

theorem quiet_recordTrace {t r : Trace} (h : Quiet py s) (hr : recordTrace py env t s = .ok r s') :
    Quiet py s' := by
  refine ⟨sound_effect h.1 (recordTrace_effect hr), ?_⟩
  obtain ⟨_, _, _, _, rfl⟩ := recordTrace_eq_ok.mp hr
  exact h.2

theorem quiet_addFailureCase {c r : FailureCase} (h : Quiet py s)
    (hr : addFailureCase c s = .ok r s') : Quiet py s' := by
  refine ⟨sound_effect h.1 (addFailureCase_effect hr), ?_⟩
  obtain ⟨_, _, rfl⟩ := addFailureCase_eq_ok.mp hr
  exact h.2

theorem quiet_addLesson {l r : Lesson} (h : Quiet py s) (hr : addLesson py l s = .ok r s') :
    Quiet py s' := by
  refine ⟨sound_effect h.1 (addLesson_effect hr), ?_⟩
  obtain ⟨_, _, rfl⟩ := addLesson_eq_ok.mp hr
  exact h.2

theorem quiet_addProjectPolicy {p r : ProjectPolicy} (h : Quiet py s)
    (hr : addProjectPolicy py p s = .ok r s') : Quiet py s' := by
  refine ⟨sound_effect h.1 (addProjectPolicy_effect hr), ?_⟩
  obtain ⟨_, _, rfl⟩ := addProjectPolicy_eq_ok.mp hr
  exact h.2

theorem quiet_forEach {α β : Type} {f : α → Op β} {l : List α}
    (hstep : ∀ a s b t, Quiet py s → f a s = .ok b t → Quiet py t) {u : Unit} (h : Quiet py s)
    (hf : forEach f l s = .ok u s') : Quiet py s' :=
  forEach_invariant (P := fun s t => Quiet py s → Quiet py t) (fun _ h => h)
    (fun _ _ _ h₁ h₂ h => h₂ (h₁ h)) (fun a _ s b t hb hs => hstep a s b t hs hb) hf h

theorem quiet_loadSnapshot {data : Snapshot} {u : Unit} (h : Quiet py s)
    (hr : loadSnapshot py env data s = .ok u s') : Quiet py s' := by
  simp only [loadSnapshot, run_bind_eq_ok] at hr
  obtain ⟨_, s₁, h₁, _, s₂, h₂, _, s₃, h₃, _, s₄, h₄, h₅⟩ := hr
  have q₁ := quiet_forEach (fun _ _ _ _ => quiet_recordTrace) h h₁
  have q₂ := quiet_forEach (fun _ _ _ _ => quiet_addFailureCase) q₁ h₂
  have q₃ := quiet_forEach (fun _ _ _ _ => quiet_addLesson) q₂ h₃
  have q₄ := quiet_forEach (fun _ _ _ _ => quiet_addProjectPolicy) q₃ h₄
  exact quiet_forEach (fun _ _ _ _ => quiet_loadUsageLog) q₄ h₅

theorem fromSnapshot_eq_ok {token : Nat} {session : SessionId} {limits : SnapshotLimits}
    {data : Snapshot} :
    fromSnapshot py env token session limits data = .ok s ↔
      validateSnapshotCollectionLimits data limits = .ok () ∧
        loadSnapshot py env data (Store.fresh token session) = .ok () s := by
  simp only [fromSnapshot, bind_eq_ok, exists_unit]
  refine and_congr_right fun _ => ?_
  cases loadSnapshot py env data (Store.fresh token session) with
  | error e t => simp
  | ok u t => simp

theorem Reachable.sound (h : Reachable py s) : Sound py s := by
  induction h with
  | fresh token session => exact sound_fresh py token session
  | loaded env token session limits data h =>
    exact (quiet_loadSnapshot ⟨sound_fresh py token session, rfl⟩ (fromSnapshot_eq_ok.mp h).2).1
  | step _ env op ih => exact sound_effects ih (stepStore_effects ih (env, op))

end Loading

section Accounting

def requestLogs (s : Store) (requestId : Str) : List MemoryUsageLog :=
  s.usageLogs.filter (fun log => decide (log.requestId = some requestId))

structure Single (s : Store) (k : Str) : Prop where
  issued : s.Issued k
  logs : (requestLogs s k).length ≤ 1

theorem length_requestLogs_seals {k : Str} {logs logs' : List MemoryUsageLog}
    (h : List.Forall₂ MemoryUsageLog.Seals logs logs') :
    (logs'.filter (fun log => decide (log.requestId = some k))).length =
      (logs.filter (fun log => decide (log.requestId = some k))).length := by
  induction h with
  | nil => rfl
  | cons hs _ ih =>
    simp only [List.filter_cons, seals_requestId hs]
    split <;> simp [ih]

theorem requestLogs_eq_nil (h : Sound py s) {k : Str} {r : MemoryGateRequest}
    (hp : s.pendingGateRequests.get? k = some r) : requestLogs s k = [] := by
  refine List.filter_eq_nil_iff.mpr fun log hlog => ?_
  simpa using (h.requests.pending k r hp).unlogged log hlog

theorem Single.effect {k : Str} (hs : Sound py s) (h : Single s k) (he : Effect py s s') :
    Single s' k := by
  cases he with
  | complete traces logs ht hl => exact ⟨h.issued, (length_requestLogs_seals hl).trans_le h.logs⟩
  | prepare a r hr => exact ⟨h.issued.mono rfl (Nat.le_succ _), h.logs⟩
  | log log next hv hr hn =>
    refine ⟨h.issued.mono rfl (nextNumbers_eq_ok hn).2.2.1, ?_⟩
    simpa [requestLogs, Store.appended, hr] using h.logs
  | finalize r log next hp hv hr hn =>
    refine ⟨h.issued.mono rfl (nextNumbers_eq_ok hn).2.2.1, ?_⟩
    obtain ⟨_, p, hget, _⟩ := checkPending_eq_ok.mp hp
    by_cases hk : r.requestId = k
    · subst hk
      have hnil := requestLogs_eq_nil hs hget
      simp only [requestLogs] at hnil
      simp [requestLogs, Store.appended, Store.closed, hnil, hr]
    · simpa [requestLogs, Store.appended, Store.closed, hr, hk] using h.logs
  | recordTrace | addCase | rewriteCase | obsolete | addLesson | addPolicy | cancel =>
    exact ⟨h.issued, h.logs⟩

theorem Single.effects {k : Str} (hs : Sound py s) (h : Single s k) (he : Effects py s s') :
    Single s' k := by
  induction he with
  | refl => exact h
  | tail hrun hstep ih => exact ih.effect (sound_effects hs hrun) hstep

theorem single_prepared (hs : Sound py s) {a : PrepareArguments} {r : MemoryGateRequest}
    (h : prepareMemory py a s = .ok r s') : Single s' r.requestId := by
  obtain ⟨hr, rfl⟩ := prepareMemory_effect h
  have hsound := sound_effect hs (.prepare a r hr)
  have hget : (s.pendingGateRequests.set r.requestId r).get? r.requestId = some r := by simp
  refine ⟨(hsound.requests.pending _ r hget).issued, ?_⟩
  rw [requestLogs_eq_nil hsound hget]
  simp

theorem store_atomicity (h : Reachable py s) :
    (∀ env op e s', exec py env op s = .error e s' → s' = s) ∧
      ∀ a r s', prepareMemory py a s = .ok r s' → ∀ calls,
        (requestLogs (runStore py s' calls) r.requestId).length ≤ 1 := by
  have hs := h.sound
  refine ⟨fun env op e s' hr => exec_raised hs hr, fun a r s' hr calls => ?_⟩
  have hsingle := single_prepared hs hr
  have hs' : Sound py s' := by
    obtain ⟨hp, rfl⟩ := prepareMemory_effect hr
    exact sound_effect hs (.prepare a r hp)
  exact (hsingle.effects hs' (runStore_effects hs' calls)).logs

set_option maxRecDepth 20000 in
theorem sampleStore_duplicate_raises : returns (exec asciiPython sampleEnv
    (.obsoleteMemories [⟨.lesson, lit "lesson_1"⟩, ⟨.failureCase, lit "case_2"⟩]) sampleStore) =
      false := by
  decide +kernel

theorem store_atomicity_sample :
    (∃ e s', exec asciiPython sampleEnv
      (.obsoleteMemories [⟨.lesson, lit "lesson_1"⟩, ⟨.failureCase, lit "case_2"⟩]) sampleStore =
        .error e s' ∧ s' = sampleStore) ∧
      ∃ r s g s', prepareMemory asciiPython sampleRequest sampleStore = .ok r s ∧
        finalizeMemory asciiPython sampleEnv (sampleFinalization r) s = .ok g s' ∧
        ∀ calls, (requestLogs (runStore asciiPython s calls) r.requestId).length ≤ 1 := by
  obtain ⟨hraise, honce⟩ := store_atomicity sampleStore_reachable
  constructor
  · obtain ⟨e, s', he⟩ := exists_of_not_returns sampleStore_duplicate_raises
    exact ⟨e, s', he, hraise _ _ _ _ he⟩
  · obtain ⟨r, s, g, s', hp, hf⟩ := sampleGate_steps
    exact ⟨r, s, g, s', hp, hf, honce _ r s hp⟩

end Accounting

end TraceBackedMemory
