import TraceBackedMemory.Store.GateSafety

namespace TraceBackedMemory

open Text Raising

variable {py : Python} {env : Env} {S s s' : Store}

section SortedValues

theorem mem_sortedStrs {l : List Str} {i : Str} : i ∈ sortedStrs l ↔ i ∈ l :=
  (List.perm_insertionSort _ l).mem_iff

theorem nodup_sortedStrs {l : List Str} (h : l.Nodup) : (sortedStrs l).Nodup :=
  (List.perm_insertionSort _ l).nodup_iff.mpr h

theorem map_filterMap_get? {α : Type} {d : Dict Str α} {key : α → Str}
    (hkey : ∀ k v, d.get? k = some v → key v = k) {ks : List Str} (hks : ∀ k ∈ ks, k ∈ d.keys) :
    (ks.filterMap d.get?).map key = ks := by
  induction ks with
  | nil => rfl
  | cons k ks ih =>
    obtain ⟨v, hv⟩ := Dict.mem_keys.mp (hks k (by simp))
    have htail := ih fun j hj => hks j (List.mem_cons_of_mem _ hj)
    simp [hv, hkey k v hv, htail]

theorem mem_sortedValues {α : Type} {d : Dict Str α} {v : α} :
    v ∈ sortedValues d ↔ ∃ k, d.get? k = some v := by
  simp only [sortedValues, List.mem_filterMap, mem_sortedStrs]
  constructor
  · rintro ⟨k, _, hk⟩
    exact ⟨k, hk⟩
  · rintro ⟨k, hk⟩
    exact ⟨k, Dict.mem_keys.mpr ⟨v, hk⟩, hk⟩

theorem restores_sortedValues {α : Type} {d : Dict Str α} {key : α → Str}
    (hkey : ∀ k v, d.get? k = some v → key v = k) :
    Dict.Restores d Dict.empty key (sortedValues d) := by
  refine ⟨?_, fun k v => ?_, fun v _ => rfl⟩
  · rw [sortedValues, map_filterMap_get? hkey fun k hk => mem_sortedStrs.mp hk]
    exact nodup_sortedStrs d.keys_nodup
  · rw [mem_sortedValues]
    constructor
    · exact fun hv => .inr ⟨⟨k, hv⟩, hkey k v hv⟩
    · rintro (hv | ⟨⟨j, hj⟩, rfl⟩)
      · cases hv
      · exact (hkey j v hj).symm ▸ hj

end SortedValues

section Loading

structure Restoring (py : Python) (S s : Store) (traces : List Trace) (cases : List FailureCase)
    (lessons : List Lesson) (policies : List ProjectPolicy) (logs : List MemoryUsageLog) : Prop where
  quiet : Quiet py s
  traces : Dict.Restores S.traces s.traces Trace.traceId traces
  cases : Dict.Restores S.failureCases s.failureCases FailureCase.caseId cases
  lessons : Dict.Restores S.lessons s.lessons Lesson.lessonId lessons
  policies : Dict.Restores S.projectPolicies s.projectPolicies ProjectPolicy.policyId policies
  logs : S.usageLogs.Perm (s.usageLogs ++ logs)

variable {ts : List Trace} {cs : List FailureCase} {ls : List Lesson} {ps : List ProjectPolicy}
  {logs : List MemoryUsageLog}

theorem restore_trace (hS : Sound py S) (henv : env.interrupted = false) {t : Trace}
    (h : Restoring py S s (t :: ts) cs ls ps logs) :
    ∃ r s', recordTrace py env t s = .ok r s' ∧ Restoring py S s' ts cs ls ps logs := by
  have hv := (hS.records.traces_at _ t (h.traces.of_mem (by simp))).2
  have hn := h.traces.missing t (by simp)
  have hr : recordTrace py env t s = .ok t (s.withTrace t) :=
    recordTrace_eq_ok.mpr ⟨hv, hn, henv, rfl, rfl⟩
  exact ⟨t, _, hr, quiet_recordTrace h.quiet hr, h.traces.step, h.cases, h.lessons, h.policies,
    h.logs⟩

theorem restore_case (hS : Sound py S) {c : FailureCase}
    (h : Restoring py S s [] (c :: cs) ls ps logs) :
    ∃ r s', addFailureCase c s = .ok r s' ∧ Restoring py S s' [] cs ls ps logs := by
  have hget := h.cases.of_mem (List.mem_cons_self (a := c) (l := cs))
  have hc := hS.records.cases_at _ c hget
  have hcheck : s.checkNewFailureCase c = .ok () := by
    refine checkNewFailureCase_eq_ok.mpr ⟨hc.valid, h.cases.missing c (by simp), ?_, ?_, ?_⟩
    · exact h.lessons.get?_none (hS.records.case_not_lesson _ c hget)
    · exact h.policies.get?_none (hS.records.case_not_policy _ c hget)
    · obtain ⟨t, ht, hf, hs⟩ := hc.source
      exact ⟨t, (h.traces.done _).trans ht, hf, hs⟩
  have hr : addFailureCase c s = .ok c _ := addFailureCase_eq_ok.mpr ⟨hcheck, rfl, rfl⟩
  exact ⟨c, _, hr, quiet_addFailureCase h.quiet hr, h.traces, h.cases.step, h.lessons, h.policies,
    h.logs⟩

theorem restore_lesson (hS : Sound py S) {l : Lesson}
    (h : Restoring py S s [] [] (l :: ls) ps logs) :
    ∃ r s', addLesson py l s = .ok r s' ∧ Restoring py S s' [] [] ls ps logs := by
  have hget := h.lessons.of_mem (List.mem_cons_self (a := l) (l := ls))
  have hl := hS.records.lessons_at _ l hget
  have hcheck : s.validatedLessonCandidate py l s.lessons = .ok () := by
    refine validatedLessonCandidate_eq_ok.mpr ⟨hl.valid, h.lessons.missing l (by simp), ?_, ?_, ?_⟩
    · rw [h.cases.done]
      cases hc : S.failureCases.get? l.lessonId with
      | none => rfl
      | some c =>
        rw [hS.records.case_not_lesson _ c hc] at hget
        cases hget
    · exact h.policies.get?_none (hS.records.lesson_not_policy _ l hget)
    · obtain ⟨c, t, hc, ht, hs⟩ := hl.source
      exact ⟨c, t, (h.cases.done _).trans hc, (h.traces.done _).trans ht, hs⟩
  have hr : addLesson py l s = .ok l _ := addLesson_eq_ok.mpr ⟨hcheck, rfl, rfl⟩
  exact ⟨l, _, hr, quiet_addLesson h.quiet hr, h.traces, h.cases, h.lessons.step, h.policies,
    h.logs⟩

theorem restore_policy (hS : Sound py S) {p : ProjectPolicy}
    (h : Restoring py S s [] [] [] (p :: ps) logs) :
    ∃ r s', addProjectPolicy py p s = .ok r s' ∧ Restoring py S s' [] [] [] ps logs := by
  have hget := h.policies.of_mem (List.mem_cons_self (a := p) (l := ps))
  have hp := hS.records.policies_at _ p hget
  have hcheck : s.checkNewProjectPolicy py p = .ok () := by
    refine checkNewProjectPolicy_eq_ok.mpr ⟨hp.2, h.policies.missing p (by simp), ?_, ?_⟩
    · rw [h.cases.done]
      cases hc : S.failureCases.get? p.policyId with
      | none => rfl
      | some c =>
        rw [hS.records.case_not_policy _ c hc] at hget
        cases hget
    · rw [h.lessons.done]
      cases hl : S.lessons.get? p.policyId with
      | none => rfl
      | some l =>
        rw [hS.records.lesson_not_policy _ l hl] at hget
        cases hget
  have hr : addProjectPolicy py p s = .ok p _ := addProjectPolicy_eq_ok.mpr ⟨hcheck, rfl, rfl⟩
  exact ⟨p, _, hr, quiet_addProjectPolicy h.quiet hr, h.traces, h.cases, h.lessons,
    h.policies.step, h.logs⟩

theorem keys_usageLogIndexes (h : LogsSound s) :
    s.usageLogIndexes.keys = s.usageLogs.map MemoryUsageLog.decisionId := by
  have hfst : s.usageLogs.zipIdx.map Prod.fst = s.usageLogs := List.zipIdx_map_fst 0 s.usageLogs
  calc s.usageLogIndexes.keys
      = (logIndexEntries s.usageLogs).map Prod.fst := by rw [Dict.keys, h.index]
    _ = (s.usageLogs.zipIdx.map Prod.fst).map MemoryUsageLog.decisionId := by
        rw [logIndexEntries, List.map_map, List.map_map]
        rfl
    _ = s.usageLogs.map MemoryUsageLog.decisionId := by rw [hfst]

theorem decisionIds_nodup (h : LogsSound s) :
    (s.usageLogs.map MemoryUsageLog.decisionId).Nodup :=
  keys_usageLogIndexes h ▸ s.usageLogIndexes.keys_nodup

theorem tracesExtend_of_get? {d e : Dict Str Trace} (h : ∀ k, e.get? k = d.get? k) :
    TracesExtend d e :=
  fun k t ht => ⟨t, (h k).trans ht, Trace.Completes.refl t⟩

theorem memoryKnown_of_restoring (h : Restoring py S s [] [] [] [] logs) (i : Str) :
    s.memoryKnown i = S.memoryKnown i := by
  simp only [Store.memoryKnown, Dict.contains, h.cases.done, h.lessons.done, h.policies.done]

theorem nextNumbers_total {log : MemoryUsageLog} (h : s.usageLogIndexes.get? log.decisionId = none) :
    ∃ next, s.nextNumbers log = .ok next := by
  refine ⟨_, bind_eq_ok.mpr ⟨(), raiseIf_eq_ok.mpr ?_, rfl⟩⟩
  rw [Bool.not_eq_true, Dict.contains_eq_false]
  exact h

theorem snapshotLog_saved {log : MemoryUsageLog} (h : s.LogValid log) :
    s.snapshotLog py true { log := log } = .ok log := by
  have hv2 : validateV2UsageLogRecord { log := log } = .ok () := rfl
  simp only [Store.snapshotLog, if_true, bind_eq_ok, exists_unit, pure_eq_ok]
  exact ⟨log, ⟨hv2, rfl⟩, h.1, h.2.1, h.2.2, rfl⟩

theorem restore_log (hS : Sound py S) (henv : env.interrupted = false) {log : MemoryUsageLog}
    (h : Restoring py S s [] [] [] [] (log :: logs)) :
    ∃ u s', loadUsageLog py env true { log := log } s = .ok u s' ∧
      Restoring py S s' [] [] [] [] logs := by
  have hmem : log ∈ S.usageLogs := h.logs.mem_iff.mpr (by simp)
  have hvalid : s.LogValid log := by
    refine (hS.logs.valid log hmem).extend (tracesExtend_of_get? h.traces.done) fun i hi => ?_
    exact (memoryKnown_of_restoring h i).trans hi
  have hfree : s.usageLogIndexes.get? log.decisionId = none := by
    rw [Dict.get?_eq_none, keys_usageLogIndexes h.quiet.1.logs]
    have hn := (h.logs.map MemoryUsageLog.decisionId).nodup_iff.mp (decisionIds_nodup hS.logs)
    rw [List.map_append, List.map_cons] at hn
    have hd := List.nodup_append.mp hn
    exact fun hin => hd.2.2 _ hin _ (by simp) rfl
  obtain ⟨next, hnext⟩ := nextNumbers_total hfree
  have hr : loadUsageLog py env true { log := log } s = .ok () (s.appended log next) :=
    loadUsageLog_eq_ok.mpr ⟨log, snapshotLog_saved hvalid, henv, next, hnext, rfl⟩
  refine ⟨(), _, hr, quiet_loadUsageLog h.quiet hr, h.traces, h.cases, h.lessons, h.policies, ?_⟩
  have happ : (s.appended log next).usageLogs ++ logs = s.usageLogs ++ log :: logs := by
    simp [Store.appended]
  rw [happ]
  exact h.logs

theorem restoring_start (hS : Sound py S) (token : Nat) (session : SessionId) :
    Restoring py S (Store.fresh token session) S.toSnapshot.traces S.toSnapshot.failureCases
      S.toSnapshot.lessons S.toSnapshot.projectPolicies
      (S.usageLogs.insertionSort (fun a b => a.decisionId ≤ b.decisionId)) where
  quiet := ⟨sound_fresh py token session, rfl⟩
  traces := restores_sortedValues fun k t hk => (hS.records.traces_at k t hk).1
  cases := restores_sortedValues fun k c hk => (hS.records.cases_at k c hk).key
  lessons := restores_sortedValues fun k l hk => (hS.records.lessons_at k l hk).key
  policies := restores_sortedValues fun k p hk => (hS.records.policies_at k p hk).1
  logs := (List.perm_insertionSort _ _).symm

theorem forEach_map {ε σ α β γ : Type} (f : β → Program ε σ γ) (g : α → β) (l : List α) :
    forEach f (l.map g) = forEach (fun a => f (g a)) l := by
  induction l with
  | nil => rfl
  | cons a l ih => simp only [List.map_cons, forEach, ih]

theorem loadSnapshot_toSnapshot (hS : Sound py S) (henv : env.interrupted = false) (token : Nat)
    (session : SessionId) :
    ∃ s', loadSnapshot py env S.toSnapshot (Store.fresh token session) = .ok () s' ∧
      Restoring py S s' [] [] [] [] [] := by
  have h₀ := restoring_start hS token session
  obtain ⟨s₁, r₁, h₁⟩ := forEach_total
    (fun s t ts (h : Restoring py S s (t :: ts) _ _ _ _) => restore_trace hS henv h) h₀
  obtain ⟨s₂, r₂, h₂⟩ := forEach_total
    (fun s c cs (h : Restoring py S s [] (c :: cs) _ _ _) => restore_case hS h) h₁
  obtain ⟨s₃, r₃, h₃⟩ := forEach_total
    (fun s l ls (h : Restoring py S s [] [] (l :: ls) _ _) => restore_lesson hS h) h₂
  obtain ⟨s₄, r₄, h₄⟩ := forEach_total
    (fun s p ps (h : Restoring py S s [] [] [] (p :: ps) _) => restore_policy hS h) h₃
  obtain ⟨s₅, r₅, h₅⟩ := forEach_total
    (fun s log logs (h : Restoring py S s [] [] [] [] (log :: logs)) => restore_log hS henv h) h₄
  refine ⟨s₅, ?_, h₅⟩
  simp only [loadSnapshot, run_bind_eq_ok]
  refine ⟨(), s₁, r₁, (), s₂, r₂, (), s₃, r₃, (), s₄, r₄, ?_⟩
  have hmap := forEach_map (loadUsageLog py env true) (fun log => { log := log })
    (S.usageLogs.insertionSort (fun a b => a.decisionId ≤ b.decisionId))
  exact (congrFun hmap s₄).trans r₅

end Loading

section LaterIds

theorem effect_session (h : Effect py s s') :
    s'.gateRequestSessionId = s.gateRequestSessionId := by
  cases h <;> rfl

theorem effects_session (h : Effects py s s') :
    s'.gateRequestSessionId = s.gateRequestSessionId := by
  induction h with
  | refl => rfl
  | tail _ hstep ih => exact (effect_session hstep).trans ih

theorem forEach_session {α β : Type} {f : α → Op β} {l : List α}
    (hstep : ∀ a s b t, f a s = .ok b t → t.gateRequestSessionId = s.gateRequestSessionId)
    {u : Unit} (h : forEach f l s = .ok u s') :
    s'.gateRequestSessionId = s.gateRequestSessionId := by
  refine forEach_invariant (P := fun s t => t.gateRequestSessionId = s.gateRequestSessionId)
    (fun _ => rfl) ?_ (fun a _ s b t => hstep a s b t) h
  intro s t u hst htu
  exact htu.trans hst

theorem loadSnapshot_session {data : Snapshot} {u : Unit}
    (h : loadSnapshot py env data s = .ok u s') :
    s'.gateRequestSessionId = s.gateRequestSessionId := by
  simp only [loadSnapshot, run_bind_eq_ok] at h
  obtain ⟨_, s₁, h₁, _, s₂, h₂, _, s₃, h₃, _, s₄, h₄, h₅⟩ := h
  have e₁ := forEach_session (fun _ _ _ _ h => effect_session (recordTrace_effect h)) h₁
  have e₂ := forEach_session (fun _ _ _ _ h => @effect_session py _ _ (addFailureCase_effect h)) h₂
  have e₃ := forEach_session (fun _ _ _ _ h => effect_session (addLesson_effect h)) h₃
  have e₄ := forEach_session (fun _ _ _ _ h => effect_session (addProjectPolicy_effect h)) h₄
  have e₅ : s'.gateRequestSessionId = s₄.gateRequestSessionId := by
    refine forEach_session (fun _ s _ t h => ?_) h₅
    obtain ⟨log, _, _, next, _, rfl⟩ := loadUsageLog_eq_ok.mp h
    rfl
  rw [e₅, e₄, e₃, e₂, e₁]

theorem SessionId.eq_of_text {a b : SessionId} (h : a.text = b.text) : a = b := by
  cases a
  cases b
  cases h
  rfl

theorem exec_gated_decisionId {op : Operation} {p : MemoryContext × List Str}
    (hop : op.gated = some p) {r : Reply} (hr : exec py env op s = .ok r s') :
    ∃ log, s'.usageLogs = s.usageLogs ++ [log] ∧
      log.decisionId = decisionIdText s.nextDecisionNumber := by
  cases op <;> simp only [Operation.gated] at hop <;> cases hop
  case finalizeMemory a =>
    obtain ⟨_, hr, _⟩ := run_map_eq_ok.mp hr
    obtain ⟨f, next, hf, _, rfl, _⟩ := finalizeMemory_spec hr
    exact ⟨f.log, rfl, (finalization_log hf).2.2.2⟩
  case logDecision a =>
    obtain ⟨log, hr, _⟩ := run_map_eq_ok.mp hr
    obtain ⟨next, hl, _, rfl⟩ := logDecision_spec hr
    exact ⟨log, rfl, (loggedDecision_log hl).2.2⟩

theorem Kept.decisionId_ne (h : LogsSound s) {log : MemoryUsageLog} (hk : Kept log s) :
    decisionIdText s.nextDecisionNumber ≠ log.decisionId := by
  obtain ⟨log', hlog', hu⟩ := hk
  have hid : log'.unmeasured.decisionId = log.unmeasured.decisionId := by rw [hu]
  intro he
  have hn : decisionNumber? log'.decisionId = some s.nextDecisionNumber := by
    rw [show log'.decisionId = log.decisionId from hid, ← he]
    exact decisionNumber_decisionIdText _
  exact lt_irrefl _ (h.decision_numbers log' hlog' _ hn)

theorem Kept.requestId_ne (h : LogsSound s) {log : MemoryUsageLog} (hk : Kept log s) :
    log.requestId ≠ some (requestIdText s.gateRequestSessionId s.nextGateRequestNumber) := by
  obtain ⟨log', hlog', hu⟩ := hk
  have hid : log'.unmeasured.requestId = log.unmeasured.requestId := by rw [hu]
  intro he
  exact next_not_logged h hlog' (Eq.trans hid he)

structure SameContents (S s : Store) : Prop where
  traces : ∀ k, s.traces.get? k = S.traces.get? k
  failure_cases : ∀ k, s.failureCases.get? k = S.failureCases.get? k
  lessons : ∀ k, s.lessons.get? k = S.lessons.get? k
  active_lessons : ∀ l, (l ∈ s.lessons.values ∧ l.status = .active) ↔
    (l ∈ S.lessons.values ∧ l.status = .active)
  project_policies : ∀ k, s.projectPolicies.get? k = S.projectPolicies.get? k
  usage_logs : S.usageLogs.Perm s.usageLogs

structure LaterIdsFresh (py : Python) (S s : Store) (session : SessionId) : Prop where
  decisions : ∀ calls env op p r s', Operation.gated op = some p →
    exec py env op (runStore py s calls) = .ok r s' →
    ∃ log, s'.usageLogs = (runStore py s calls).usageLogs ++ [log] ∧
      ∀ old ∈ S.usageLogs, log.decisionId ≠ old.decisionId
  requests : ∀ calls a r s', prepareMemory py a (runStore py s calls) = .ok r s' →
    (∀ old ∈ S.usageLogs, old.requestId ≠ some r.requestId) ∧
    (session ≠ S.gateRequestSessionId →
      r.requestId ∉ S.pendingGateRequests.keys ∧ r.requestId ∉ S.finalizedGateRequestIds)

theorem sameContents_of_restoring (h : Restoring py S s [] [] [] [] []) : SameContents S s where
  traces := h.traces.done
  failure_cases := h.cases.done
  lessons := h.lessons.done
  active_lessons l := by simp only [Dict.mem_values, h.lessons.done]
  project_policies := h.policies.done
  usage_logs := by
    have hp := h.logs
    rwa [List.append_nil] at hp

theorem not_issued_of_session {k : Str} {session : SessionId} {n : Nat}
    (hne : session ≠ S.gateRequestSessionId) (hk : k = requestIdText session n) : ¬S.Issued k := by
  rintro ⟨m, _, hm⟩
  rw [hk] at hm
  exact hne (SessionId.eq_of_text (requestIdText_session_inj hm))

theorem laterIdsFresh (hS : Sound py S) (hs : Sound py s) {session : SessionId}
    (hsession : s.gateRequestSessionId = session) (hlogs : S.usageLogs.Perm s.usageLogs) :
    LaterIdsFresh py S s session := by
  have hkept : ∀ calls, ∀ old ∈ S.usageLogs, Kept old (runStore py s calls) := by
    intro calls old hold
    have hmem : old ∈ s.usageLogs := hlogs.mem_iff.mp hold
    exact kept_effects ⟨old, hmem, rfl⟩ (runStore_effects hs calls)
  constructor
  · intro calls env op p r s' hop hr
    have hT := sound_effects hs (runStore_effects hs calls)
    obtain ⟨log, hlog, hid⟩ := exec_gated_decisionId hop hr
    refine ⟨log, hlog, fun old hold => ?_⟩
    rw [hid]
    exact (hkept calls old hold).decisionId_ne hT.logs
  · intro calls a r s' hr
    have heff := runStore_effects hs calls
    have hT := sound_effects hs heff
    obtain ⟨hid, _⟩ := preparedRequest_id (prepareMemory_effect hr).1
    refine ⟨fun old hold => ?_, fun hne => ?_⟩
    · rw [hid]
      exact (hkept calls old hold).requestId_ne hT.logs
    · rw [effects_session heff, hsession] at hid
      have hissued := not_issued_of_session hne hid
      refine ⟨fun hin => ?_, fun hin => hissued (hS.requests.finalized _ hin)⟩
      obtain ⟨q, hq⟩ := Dict.mem_keys.mp hin
      exact hissued (hS.requests.pending _ q hq).issued

theorem snapshot_round_trip (h : Reachable py S) (now : Str) (token : Nat) (session : SessionId) :
    ∃ s, fromSnapshot py { now := now } token session ⟨none, none⟩ S.toSnapshot = .ok s ∧
      SameContents S s ∧ LaterIdsFresh py S s session := by
  have hS := h.sound
  obtain ⟨s, hload, hrest⟩ := @loadSnapshot_toSnapshot py { now := now } S hS rfl token session
  have hlimits : validateSnapshotCollectionLimits S.toSnapshot ⟨none, none⟩ = .ok () := rfl
  have hsession : s.gateRequestSessionId = session := loadSnapshot_session hload
  have hsame := sameContents_of_restoring hrest
  exact ⟨s, fromSnapshot_eq_ok.mpr ⟨hlimits, hload⟩, hsame,
    laterIdsFresh hS hrest.quiet.1 hsession hsame.usage_logs⟩

def reloadSession : SessionId where
  text := lit "fedcba9876543210fedcba9876543210"
  length_text := by decide
  hex_text := by decide

theorem snapshot_round_trip_sample : ∃ r s₁ g s₂,
    prepareMemory asciiPython sampleRequest sampleStore = .ok r s₁ ∧
      finalizeMemory asciiPython sampleEnv (sampleFinalization r) s₁ = .ok g s₂ ∧
      ∃ s, fromSnapshot asciiPython { now := sampleEnv.now } 1 reloadSession ⟨none, none⟩
          s₂.toSnapshot = .ok s ∧
        SameContents s₂ s ∧ LaterIdsFresh asciiPython s₂ s reloadSession := by
  obtain ⟨r, s₁, g, s₂, hp, hf⟩ := sampleGate_steps
  have h₁ : Reachable asciiPython s₁ :=
    @Reachable.ok _ _ _ sampleStore_reachable sampleEnv (.prepareMemory sampleRequest) _
      (run_map_eq_ok.mpr ⟨r, hp, rfl⟩)
  have h₂ : Reachable asciiPython s₂ :=
    @Reachable.ok _ _ _ h₁ sampleEnv (.finalizeMemory (sampleFinalization r)) _
      (run_map_eq_ok.mpr ⟨g, hf, rfl⟩)
  exact ⟨r, s₁, g, s₂, hp, hf, snapshot_round_trip h₂ sampleEnv.now 1 reloadSession⟩

def Store.ids (s : Store) : List Str :=
  s.traces.keys ++ s.failureCases.keys ++ s.lessons.keys ++ s.projectPolicies.keys ++
    s.usageLogs.map MemoryUsageLog.decisionId ++ s.usageLogs.filterMap MemoryUsageLog.requestId ++
    s.pendingGateRequests.keys

def namesakeTrace : Trace := { liveTrace with traceId := lit "decision_000001" }

def namesakeStore : Store :=
  runStore asciiPython (Store.fresh 0 sampleSession) [(sampleEnv, .recordTrace namesakeTrace)]

def namesakeLog : LogArguments where
  runId := lit "run_2"
  context := sampleContext
  candidateMemoryIds := []
  decision :=
    { useMemory := false
      allowedMemoryIds := []
      blockedMemoryIds := []
      reason := lit "no candidates"
      risk := .none
      recommendedInjection := .none }

def namesakeRun : Except Exn Bool := do
  let s ← fromSnapshot asciiPython sampleEnv 1 sampleSession ⟨none, none⟩ namesakeStore.toSnapshot
  match logDecision asciiPython sampleEnv namesakeLog s with
  | .ok log _ => return decide (log.decisionId ∈ namesakeStore.ids)
  | .error e _ => .error e

set_option maxRecDepth 20000 in
theorem namesakeRun_eq : namesakeRun = .ok true := by decide +kernel

theorem snapshot_round_trip_namesake : ∃ s log s',
    fromSnapshot asciiPython sampleEnv 1 sampleSession ⟨none, none⟩ namesakeStore.toSnapshot =
      .ok s ∧
      logDecision asciiPython sampleEnv namesakeLog s = .ok log s' ∧
      log.decisionId ∈ namesakeStore.ids := by
  have hrun := namesakeRun_eq
  simp only [namesakeRun, bind_eq_ok] at hrun
  obtain ⟨s, hs, hlog⟩ := hrun
  cases hl : logDecision asciiPython sampleEnv namesakeLog s with
  | error e s' =>
    rw [hl] at hlog
    cases hlog
  | ok log s' =>
    simp only [hl, pure_eq_ok, decide_eq_true_eq] at hlog
    exact ⟨s, log, s', hs, hl, hlog⟩

end LaterIds

end TraceBackedMemory
