import TraceBackedMemory.Store.Steps
import TraceBackedMemory.Store.Effects

namespace TraceBackedMemory

open Text Raising

section Specifications

theorem sortedStrs_eq_nil {l : List Str} : sortedStrs l = [] ↔ l = [] := by
  constructor
  · intro h
    have hp := List.perm_insertionSort (· ≤ · : Str → Str → Prop) l
    rw [show l.insertionSort (· ≤ ·) = [] from h] at hp
    exact List.nil_perm.mp hp
  · rintro rfl
    rfl

theorem refuseListed_eq_ok {message : String} {ids : List Str} :
    refuseListed message ids = .ok () ↔ ids = [] := by
  simp [refuseListed]

theorem validateUsageLogMemoryIds_eq_ok {s : Store} {log : MemoryUsageLog} :
    s.validateUsageLogMemoryIds log = .ok () ↔
      ∀ i ∈ log.candidateMemoryIds ++ log.usedMemoryIds ++ log.blockedMemoryIds,
        s.memoryKnown i = true := by
  rw [Store.validateUsageLogMemoryIds, refuseListed_eq_ok, sortedStrs_eq_nil,
    List.filter_eq_nil_iff]
  simp only [List.mem_dedup, Bool.not_eq_true', Bool.not_eq_false]

theorem validateUsageLogTrace_eq_ok {s : Store} {log : MemoryUsageLog} :
    s.validateUsageLogTrace log = .ok () ↔
      blank (log.traceId.getD []) = false ∧ ∃ t, s.traces.get? (log.traceId.getD []) = some t ∧
        log.runId = t.runId ∧ ∃ repo, t.repo = some repo ∧
          validateLogContext log t (log.traceId.getD []) repo = .ok () := by
  simp only [Store.validateUsageLogTrace, bind_eq_ok, exists_unit, raiseIf_eq_ok, demand_eq_ok,
    Bool.not_eq_true, ne_eq, Decidable.not_not]

theorem nextNumbers_eq_ok {s : Store} {log : MemoryUsageLog} {next : Nat × Nat}
    (h : s.nextNumbers log = .ok next) :
    s.usageLogIndexes.get? log.decisionId = none ∧
      s.nextDecisionNumber ≤ next.1 ∧ s.nextGateRequestNumber ≤ next.2 ∧
      (∀ n, decisionNumber? log.decisionId = some n → n < next.1) ∧
      ∀ r n, log.requestId = some r → requestNumber? r = some n → n < next.2 := by
  simp only [Store.nextNumbers, bind_eq_ok, exists_unit, raiseIf_eq_ok, Bool.not_eq_true,
    Dict.contains_eq_false, pure_eq_ok] at h
  obtain ⟨hn, rfl⟩ := h
  refine ⟨hn, ?_, ?_, ?_, ?_⟩
  · cases decisionNumber? log.decisionId <;> simp only <;> omega
  · cases log.requestId.bind requestNumber? <;> simp only <;> omega
  · intro n hd
    simp only [hd]
    omega
  · intro r n hr hq
    simp only [hr, Option.bind_some, hq]
    omega

theorem checkNewFailureCase_eq_ok {s : Store} {c : FailureCase} :
    s.checkNewFailureCase c = .ok () ↔
      validateFailureCase c = .ok () ∧ s.failureCases.get? c.caseId = none ∧
      s.lessons.get? c.caseId = none ∧ s.projectPolicies.get? c.caseId = none ∧
      ∃ t, s.traces.get? c.sourceTraceId = some t ∧ t.evalResult.failing = true ∧
        c.commitSha = t.commitSha := by
  simp only [Store.checkNewFailureCase, bind_eq_ok, exists_unit, raiseIf_eq_ok, demand_eq_ok,
    Bool.not_eq_true, not_or, Dict.contains_eq_false, Bool.not_eq_false, ne_eq,
    Decidable.not_not, and_assoc]

theorem validateStoredPolicy_eq_ok {py : Python} {p : ProjectPolicy} :
    validateStoredPolicy py p = .ok () ↔ validateProjectPolicy p = .ok () ∧
      validateLessonContract py p.policyText p.scope p.confidence = .ok () := by
  simp only [validateStoredPolicy, bind_eq_ok, exists_unit]

theorem checkNewProjectPolicy_eq_ok {py : Python} {s : Store} {p : ProjectPolicy} :
    s.checkNewProjectPolicy py p = .ok () ↔
      validateStoredPolicy py p = .ok () ∧ s.projectPolicies.get? p.policyId = none ∧
      s.failureCases.get? p.policyId = none ∧ s.lessons.get? p.policyId = none := by
  simp only [Store.checkNewProjectPolicy, validateStoredPolicy_eq_ok, bind_eq_ok, exists_unit,
    raiseIf_eq_ok, Bool.not_eq_true, not_or, Dict.contains_eq_false]
  constructor
  · rintro ⟨hv, hp, ⟨hc, hl⟩, hk⟩
    exact ⟨⟨hv, hk⟩, hp, hc, hl⟩
  · rintro ⟨⟨hv, hk⟩, hp, hc, hl⟩
    exact ⟨hv, hp, ⟨hc, hl⟩, hk⟩

structure LessonSourced (l : Lesson) (c : FailureCase) (t : Trace) : Prop where
  not_draft : c.status ≠ .draft
  regression : c.regressionPassed = true
  verified : l.status = .active → c.status = .verified
  clean : l.status = .active → t.dirty = false
  repo : preservesSource l (lit "repo") t.repo = .ok ()
  tenant : preservesSource l (lit "tenant") t.tenant = .ok ()

theorem validatedLessonCandidate_eq_ok {py : Python} {s : Store} {l : Lesson}
    {existing : Dict Str Lesson} :
    s.validatedLessonCandidate py l existing = .ok () ↔
      validateStoredLesson py l = .ok () ∧ existing.get? l.lessonId = none ∧
      s.failureCases.get? l.lessonId = none ∧ s.projectPolicies.get? l.lessonId = none ∧
      ∃ c t, s.failureCases.get? l.sourceCaseId = some c ∧
        s.traces.get? c.sourceTraceId = some t ∧ LessonSourced l c t := by
  simp only [Store.validatedLessonCandidate, validateStoredLesson, bind_eq_ok, exists_unit,
    raiseIf_eq_ok, demand_eq_ok, Bool.not_eq_true, not_or, Dict.contains_eq_false,
    Bool.not_eq_false, not_and, ne_eq, Decidable.not_not]
  constructor
  · rintro ⟨hv, he, ⟨hc, hp⟩, hk, c, hcs, ⟨hd, hr, hver⟩, t, ht, hclean, hrepo, hten⟩
    exact ⟨⟨hv, hk⟩, he, hc, hp, c, t, hcs, ht, hd, hr, hver, hclean, hrepo, hten⟩
  · rintro ⟨⟨hv, hk⟩, he, hc, hp, c, t, hcs, ht, hs⟩
    exact ⟨hv, he, ⟨hc, hp⟩, hk, c, hcs, ⟨hs.not_draft, hs.regression, hs.verified⟩, t, ht,
      hs.clean, hs.repo, hs.tenant⟩

end Specifications

section Invariant

structure CaseSound (traces : Dict Str Trace) (k : Str) (c : FailureCase) : Prop where
  key : c.caseId = k
  valid : validateFailureCase c = .ok ()
  source : ∃ t, traces.get? c.sourceTraceId = some t ∧ t.evalResult.failing = true ∧
    c.commitSha = t.commitSha

structure LessonSound (py : Python) (traces : Dict Str Trace) (cases : Dict Str FailureCase)
    (k : Str) (l : Lesson) : Prop where
  key : l.lessonId = k
  valid : validateStoredLesson py l = .ok ()
  source : ∃ c t, cases.get? l.sourceCaseId = some c ∧ traces.get? c.sourceTraceId = some t ∧
    LessonSourced l c t

structure RecordsSound (py : Python) (traces : Dict Str Trace) (runs : Dict Str (List Str))
    (cases : Dict Str FailureCase) (lessons : Dict Str Lesson)
    (policies : Dict Str ProjectPolicy) : Prop where
  traces_at : ∀ k t, traces.get? k = some t → t.traceId = k ∧ validateTrace py t = .ok ()
  runs_at : ∀ r ids i, runs.get? r = some ids → i ∈ ids → traces.contains i = true
  cases_at : ∀ k c, cases.get? k = some c → CaseSound traces k c
  lessons_at : ∀ k l, lessons.get? k = some l → LessonSound py traces cases k l
  policies_at : ∀ k p, policies.get? k = some p → p.policyId = k ∧ validateStoredPolicy py p = .ok ()
  case_not_lesson : ∀ k c, cases.get? k = some c → lessons.get? k = none
  case_not_policy : ∀ k c, cases.get? k = some c → policies.get? k = none
  lesson_not_policy : ∀ k l, lessons.get? k = some l → policies.get? k = none

def logIndexEntries (logs : List MemoryUsageLog) : List (Str × Nat) :=
  logs.zipIdx.map (fun p => (p.1.decisionId, p.2))

structure LogsSound (s : Store) : Prop where
  valid : ∀ log ∈ s.usageLogs, s.LogValid log
  index : s.usageLogIndexes.entries = logIndexEntries s.usageLogs
  decision_numbers : ∀ log ∈ s.usageLogs, ∀ n, decisionNumber? log.decisionId = some n →
    n < s.nextDecisionNumber
  request_numbers : ∀ log ∈ s.usageLogs, ∀ r n, log.requestId = some r →
    requestNumber? r = some n → n < s.nextGateRequestNumber

def Store.Issued (s : Store) (k : Str) : Prop :=
  ∃ n < s.nextGateRequestNumber, k = requestIdText s.gateRequestSessionId n

structure PendingSound (s : Store) (k : Str) (r : MemoryGateRequest) : Prop where
  key : r.requestId = k
  token : r.storeToken = s.storeToken
  issued : s.Issued k
  unfinished : k ∉ s.finalizedGateRequestIds
  unlogged : ∀ log ∈ s.usageLogs, log.requestId ≠ some k

structure RequestsSound (s : Store) : Prop where
  pending : ∀ k r, s.pendingGateRequests.get? k = some r → PendingSound s k r
  finalized : ∀ k ∈ s.finalizedGateRequestIds, s.Issued k

structure Sound (py : Python) (s : Store) : Prop where
  records : RecordsSound py s.traces s.traceIdsByRunId s.failureCases s.lessons s.projectPolicies
  logs : LogsSound s
  requests : RequestsSound s

theorem sound_fresh (py : Python) (token : Nat) (session : SessionId) :
    Sound py (Store.fresh token session) where
  records := by constructor <;> intro _ _ <;> intros <;> simp_all [Store.fresh]
  logs := ⟨by simp [Store.fresh], rfl, by simp [Store.fresh], by simp [Store.fresh]⟩
  requests := ⟨by simp [Store.fresh], by simp [Store.fresh]⟩

end Invariant

section Monotonicity

def TracesExtend (d d' : Dict Str Trace) : Prop :=
  ∀ k t, d.get? k = some t → ∃ t', d'.get? k = some t' ∧ t.Completes t'

theorem TracesCompleted.extend {py : Python} {d d' : Dict Str Trace}
    (h : TracesCompleted py d d') : TracesExtend d d' := by
  intro k t ht
  rcases h k with ⟨hn, _⟩ | ⟨t₀, t', h₀, h', hc, _⟩
  · rw [hn] at ht
    cases ht
  · rw [h₀] at ht
    cases ht
    exact ⟨t', h', hc⟩

theorem tracesExtend_set {d : Dict Str Trace} {k : Str} {t : Trace} (hn : d.get? k = none) :
    TracesExtend d (d.set k t) := by
  intro j u hu
  have hj : j ≠ k := by
    rintro rfl
    rw [hn] at hu
    cases hu
  exact ⟨u, (Dict.get?_set_of_ne d t hj).trans hu, Trace.Completes.refl u⟩

theorem Trace.Completes.failing {t t' : Trace} (h : t.Completes t')
    (hf : t.evalResult.failing = true) : t' = t := by
  refine h.2 ?_
  cases hr : t.evalResult <;> rw [hr] at hf <;> simp_all [EvalResult.failing, EvalResult.evaluated]

theorem CaseSound.extend {d d' : Dict Str Trace} {k : Str} {c : FailureCase}
    (h : CaseSound d k c) (hd : TracesExtend d d') : CaseSound d' k c := by
  obtain ⟨t, ht, hf, hs⟩ := h.source
  obtain ⟨t', ht', hc⟩ := hd _ _ ht
  rw [hc.failing hf] at ht'
  exact ⟨h.key, h.valid, t, ht', hf, hs⟩

theorem LessonSourced.of_identity {l : Lesson} {c : FailureCase} {t t' : Trace}
    (h : LessonSourced l c t) (hi : t'.identity = t.identity) : LessonSourced l c t' := by
  have hdirty : t'.identity.dirty = t.identity.dirty := congrArg Trace.dirty hi
  have hrepo : t'.identity.repo = t.identity.repo := congrArg Trace.repo hi
  have htenant : t'.identity.tenant = t.identity.tenant := congrArg Trace.tenant hi
  refine ⟨h.not_draft, h.regression, h.verified, fun ha => hdirty.trans (h.clean ha), ?_, ?_⟩
  · exact (congrArg (preservesSource l (lit "repo")) hrepo).trans h.repo
  · exact (congrArg (preservesSource l (lit "tenant")) htenant).trans h.tenant

theorem LessonSound.extend {py : Python} {d d' : Dict Str Trace} {cases : Dict Str FailureCase}
    {k : Str} {l : Lesson} (h : LessonSound py d cases k l) (hd : TracesExtend d d') :
    LessonSound py d' cases k l := by
  obtain ⟨c, t, hc, ht, hs⟩ := h.source
  obtain ⟨t', ht', hcomp⟩ := hd _ _ ht
  exact ⟨h.key, h.valid, c, t', hc, ht', hs.of_identity hcomp.1⟩

theorem Store.LogValid.extend {s s' : Store} {log : MemoryUsageLog} (h : s.LogValid log)
    (ht : TracesExtend s.traces s'.traces)
    (hk : ∀ i, s.memoryKnown i = true → s'.memoryKnown i = true) : s'.LogValid log := by
  obtain ⟨hv, hm, htr⟩ := h
  refine ⟨hv, ?_, ?_⟩
  · rw [validateUsageLogMemoryIds_eq_ok] at hm ⊢
    exact fun i hi => hk i (hm i hi)
  · rw [validateUsageLogTrace_eq_ok] at htr ⊢
    obtain ⟨hb, t, hget, hrun, repo, hrepo, hctx⟩ := htr
    obtain ⟨t', hget', hcomp⟩ := ht _ _ hget
    have hid := hcomp.1
    have hrun' : t'.identity.runId = t.identity.runId := congrArg Trace.runId hid
    have hrepo' : t'.identity.repo = t.identity.repo := congrArg Trace.repo hid
    refine ⟨hb, t', hget', hrun.trans hrun'.symm, repo, hrepo'.trans hrepo, ?_⟩
    have h₀ : validateLogContext log t.identity (log.traceId.getD []) repo = .ok () := hctx
    rw [← hid] at h₀
    exact h₀

theorem Store.LogValid.seals {s : Store} {log log' : MemoryUsageLog} (h : s.LogValid log)
    (hs : log.Seals log') : s.LogValid log' := by
  obtain ⟨hv, hm, ht⟩ := h
  obtain ⟨hu, hval⟩ := hs
  refine ⟨?_, ?_, ?_⟩
  · rcases hval with rfl | hval
    · exact hv
    · exact hval
  · have h₀ : s.validateUsageLogMemoryIds log.unmeasured = .ok () := hm
    rw [← hu] at h₀
    exact h₀
  · have h₀ : s.validateUsageLogTrace log.unmeasured = .ok () := ht
    rw [← hu] at h₀
    exact h₀

theorem seals_decisionId {log log' : MemoryUsageLog} (h : log.Seals log') :
    log'.decisionId = log.decisionId := by
  have hd : log'.unmeasured.decisionId = log.unmeasured.decisionId := by rw [h.1]
  exact hd

theorem seals_requestId {log log' : MemoryUsageLog} (h : log.Seals log') :
    log'.requestId = log.requestId := by
  have hr : log'.unmeasured.requestId = log.unmeasured.requestId := by rw [h.1]
  exact hr

theorem mem_of_seals {logs logs' : List MemoryUsageLog}
    (h : List.Forall₂ MemoryUsageLog.Seals logs logs') {log' : MemoryUsageLog}
    (hm : log' ∈ logs') : ∃ log ∈ logs, log.Seals log' := by
  induction h with
  | nil => simp at hm
  | cons hab _ ih =>
    rcases List.mem_cons.mp hm with rfl | hm
    · exact ⟨_, by simp, hab⟩
    · obtain ⟨a, ha, hf⟩ := ih hm
      exact ⟨a, List.mem_cons_of_mem _ ha, hf⟩

theorem exists_seals {logs logs' : List MemoryUsageLog}
    (h : List.Forall₂ MemoryUsageLog.Seals logs logs') {log : MemoryUsageLog} (hm : log ∈ logs) :
    ∃ log' ∈ logs', log.Seals log' := by
  induction h with
  | nil => simp at hm
  | cons hab _ ih =>
    rcases List.mem_cons.mp hm with rfl | hm
    · exact ⟨_, by simp, hab⟩
    · obtain ⟨a, ha, hf⟩ := ih hm
      exact ⟨a, List.mem_cons_of_mem _ ha, hf⟩

theorem logIndexEntries_seals {logs logs' : List MemoryUsageLog}
    (h : List.Forall₂ MemoryUsageLog.Seals logs logs') :
    logIndexEntries logs' = logIndexEntries logs := by
  unfold logIndexEntries
  generalize 0 = n
  induction h generalizing n with
  | nil => rfl
  | cons hab _ ih => simp [List.zipIdx_cons, ih, seals_decisionId hab]

end Monotonicity

section Records

variable {py : Python} {traces traces' : Dict Str Trace} {runs : Dict Str (List Str)}
  {cases : Dict Str FailureCase} {lessons : Dict Str Lesson} {policies : Dict Str ProjectPolicy}

theorem RecordsSound.recordTrace (h : RecordsSound py traces runs cases lessons policies) {t : Trace}
    (hv : validateTrace py t = .ok ()) (hn : traces.get? t.traceId = none) :
    RecordsSound py (traces.set t.traceId t)
      (runs.set t.runId ((runs.get? t.runId).getD [] ++ [t.traceId])) cases lessons policies := by
  have hext := tracesExtend_set (t := t) hn
  refine { h with traces_at := ?_, runs_at := ?_, cases_at := ?_, lessons_at := ?_ }
  · exact Dict.forall_get?_set ⟨rfl, hv⟩ h.traces_at
  · intro r ids i hr hi
    have hcov := Dict.covers_set traces t.traceId t
    rw [Dict.get?_set] at hr
    split at hr
    · cases hr
      rcases List.mem_append.mp hi with hi | hi
      · cases hg : runs.get? t.runId with
        | none => simp [hg] at hi
        | some old =>
          simp only [hg, Option.getD_some] at hi
          exact hcov i (h.runs_at _ old i hg hi)
      · rw [List.mem_singleton.mp hi, Dict.contains_iff]
        exact ⟨t, by simp⟩
    · exact hcov i (h.runs_at r ids i hr hi)
  · exact fun k c hk => (h.cases_at k c hk).extend hext
  · exact fun k l hk => (h.lessons_at k l hk).extend hext

theorem RecordsSound.complete (h : RecordsSound py traces runs cases lessons policies)
    (ht : TracesCompleted py traces traces') :
    RecordsSound py traces' runs cases lessons policies := by
  refine { h with traces_at := ?_, runs_at := ?_, cases_at := ?_, lessons_at := ?_ }
  · intro k t' hk
    rcases ht k with ⟨_, hn⟩ | ⟨t, u, h₀, h', hc, hv⟩
    · rw [hn] at hk
      cases hk
    · rw [h'] at hk
      cases hk
      obtain ⟨hkey, hvalid⟩ := h.traces_at k t h₀
      have hid : t'.identity.traceId = t.identity.traceId := congrArg Trace.traceId hc.1
      refine ⟨hid.trans hkey, ?_⟩
      rcases hv with rfl | hv
      · exact hvalid
      · exact hv
  · intro r ids i hr hi
    obtain ⟨t, hg⟩ := Dict.contains_iff.mp (h.runs_at r ids i hr hi)
    obtain ⟨t', hg', _⟩ := ht.extend i t hg
    exact Dict.contains_iff.mpr ⟨t', hg'⟩
  · exact fun k c hk => (h.cases_at k c hk).extend ht.extend
  · exact fun k l hk => (h.lessons_at k l hk).extend ht.extend

theorem LessonSound.of_cases {k : Str} {l : Lesson} {cases' : Dict Str FailureCase}
    (h : LessonSound py traces cases k l)
    (hc : cases'.get? l.sourceCaseId = cases.get? l.sourceCaseId) :
    LessonSound py traces cases' k l := by
  obtain ⟨c, t, hget, ht, hs⟩ := h.source
  exact ⟨h.key, h.valid, c, t, hc.trans hget, ht, hs⟩

theorem RecordsSound.addCase (h : RecordsSound py traces runs cases lessons policies)
    {c : FailureCase} (hc : CaseSound traces c.caseId c) (hn : cases.get? c.caseId = none)
    (hl : lessons.get? c.caseId = none) (hp : policies.get? c.caseId = none) :
    RecordsSound py traces runs (cases.set c.caseId c) lessons policies := by
  refine { h with cases_at := ?_, lessons_at := ?_, case_not_lesson := ?_, case_not_policy := ?_ }
  · exact Dict.forall_get?_set hc h.cases_at
  · intro k l hk
    have hs := h.lessons_at k l hk
    obtain ⟨d, t, hd, _⟩ := hs.source
    refine hs.of_cases (Dict.get?_set_of_ne _ _ ?_)
    intro he
    rw [he, hn] at hd
    cases hd
  · exact Dict.forall_get?_set hl h.case_not_lesson
  · exact Dict.forall_get?_set hp h.case_not_policy

theorem RecordsSound.rewriteCase (h : RecordsSound py traces runs cases lessons policies) {k : Str}
    {c c' : FailureCase} (hk : cases.get? k = some c) (hc : CaseRewritten c c') :
    RecordsSound py traces runs (cases.set k c') lessons policies := by
  have hold := h.cases_at k c hk
  refine { h with cases_at := ?_, lessons_at := ?_, case_not_lesson := ?_, case_not_policy := ?_ }
  · refine Dict.forall_get?_set ?_ h.cases_at
    obtain ⟨t, ht, hf, hs⟩ := hold.source
    refine ⟨hc.case_id.trans hold.key, hc.valid, t, ?_, hf, hc.commit_sha.trans hs⟩
    rw [hc.source_trace_id]
    exact ht
  · intro j l hj
    have hs := h.lessons_at j l hj
    obtain ⟨d, t, hd, _, hsrc⟩ := hs.source
    refine hs.of_cases (Dict.get?_set_of_ne _ _ ?_)
    rintro he
    rw [he, hk] at hd
    cases hd
    exact hsrc.not_draft hc.draft
  · exact Dict.forall_get?_set (h.case_not_lesson k c hk) h.case_not_lesson
  · exact Dict.forall_get?_set (h.case_not_policy k c hk) h.case_not_policy

theorem validateFailureCase_obsolete {c : FailureCase} (h : validateFailureCase c = .ok ()) :
    validateFailureCase (transitionFailureCaseToObsolete c) = .ok () := by
  simp only [validateFailureCase, bind_eq_ok, exists_unit, raiseIf_eq_ok] at h ⊢
  obtain ⟨h₁, h₂, h₃, h₄, _, h₅, h₆⟩ := h
  exact ⟨h₁, h₂, h₃, h₄, by simp [transitionFailureCaseToObsolete], h₅, h₆⟩

theorem CaseSound.obsolete {k : Str} {c : FailureCase} (h : CaseSound traces k c) :
    CaseSound traces k (transitionFailureCaseToObsolete c) :=
  ⟨h.key, validateFailureCase_obsolete h.valid, h.source⟩

theorem LessonSourced.case_obsolete {l : Lesson} {c : FailureCase} {t : Trace}
    (h : LessonSourced l c t) (hl : l.status ≠ .active) :
    LessonSourced l (transitionFailureCaseToObsolete c) t where
  not_draft hd := by cases hd
  regression := h.regression
  verified ha := absurd ha hl
  clean := h.clean
  repo := h.repo
  tenant := h.tenant

theorem LessonSound.obsolete {k : Str} {l : Lesson} (h : LessonSound py traces cases k l) :
    LessonSound py traces cases k (transitionLessonToObsolete l) := by
  obtain ⟨c, t, hc, ht, hs⟩ := h.source
  refine ⟨h.key, h.valid, c, t, hc, ht, hs.not_draft, hs.regression, ?_, ?_, hs.repo, hs.tenant⟩
  · intro ha
    cases ha
  · intro ha
    cases ha

theorem RecordsSound.addLesson (h : RecordsSound py traces runs cases lessons policies) {l : Lesson}
    (hl : LessonSound py traces cases l.lessonId l) (hc : cases.get? l.lessonId = none)
    (hp : policies.get? l.lessonId = none) :
    RecordsSound py traces runs cases (lessons.set l.lessonId l) policies := by
  refine { h with lessons_at := ?_, case_not_lesson := ?_, lesson_not_policy := ?_ }
  · exact Dict.forall_get?_set hl h.lessons_at
  · intro k c hk
    refine (Dict.get?_set_of_ne _ _ ?_).trans (h.case_not_lesson k c hk)
    rintro rfl
    rw [hc] at hk
    cases hk
  · exact Dict.forall_get?_set hp h.lesson_not_policy

theorem RecordsSound.addPolicy (h : RecordsSound py traces runs cases lessons policies)
    {p : ProjectPolicy} (hv : validateStoredPolicy py p = .ok ())
    (hc : cases.get? p.policyId = none) (hl : lessons.get? p.policyId = none) :
    RecordsSound py traces runs cases lessons (policies.set p.policyId p) := by
  refine { h with policies_at := ?_, case_not_policy := ?_, lesson_not_policy := ?_ }
  · exact Dict.forall_get?_set ⟨rfl, hv⟩ h.policies_at
  · intro k c hk
    refine (Dict.get?_set_of_ne _ _ ?_).trans (h.case_not_policy k c hk)
    rintro rfl
    rw [hc] at hk
    cases hk
  · intro k l hk
    refine (Dict.get?_set_of_ne _ _ ?_).trans (h.lesson_not_policy k l hk)
    rintro rfl
    rw [hl] at hk
    cases hk

theorem Obsoleted.lesson_source {s : Store} (ho : Obsoleted s cases lessons policies) {k : Str}
    {l : Lesson} (hk : lessons.get? k = some l)
    (h : LessonSound py s.traces s.failureCases k l) : LessonSound py s.traces cases k l := by
  by_cases ha : l.status = .active
  · exact h.of_cases (ho.cascade k l hk ha)
  · rcases ho.cases_at l.sourceCaseId with he | ⟨c, hc, hc'⟩
    · exact h.of_cases he
    · obtain ⟨d, t, hd, ht, hs⟩ := h.source
      rw [hc] at hd
      cases hd
      exact ⟨h.key, h.valid, _, t, hc', ht, hs.case_obsolete ha⟩

theorem Obsoleted.get?_none {α : Type} {d d' : Dict Str α} {f : α → α} {k : Str}
    (h : d'.get? k = d.get? k ∨ ∃ a, d.get? k = some a ∧ d'.get? k = some (f a))
    (hn : d.get? k = none) : d'.get? k = none := by
  rcases h with he | ⟨a, ha, _⟩
  · exact he.trans hn
  · rw [hn] at ha
    cases ha

theorem Obsoleted.get?_some {α : Type} {d d' : Dict Str α} {f : α → α} {k : Str} {a' : α}
    (h : d'.get? k = d.get? k ∨ ∃ a, d.get? k = some a ∧ d'.get? k = some (f a))
    (hs : d'.get? k = some a') : ∃ a, d.get? k = some a ∧ (a' = a ∨ a' = f a) := by
  rcases h with he | ⟨a, ha, ha'⟩
  · exact ⟨a', he.symm.trans hs, .inl rfl⟩
  · rw [ha'] at hs
    cases hs
    exact ⟨a, ha, .inr rfl⟩

theorem RecordsSound.obsolete {s : Store}
    (h : RecordsSound py s.traces s.traceIdsByRunId s.failureCases s.lessons s.projectPolicies)
    (ho : Obsoleted s cases lessons policies) :
    RecordsSound py s.traces s.traceIdsByRunId cases lessons policies := by
  constructor
  · exact h.traces_at
  · exact h.runs_at
  · intro k c' hk
    obtain ⟨c, hc, rfl | rfl⟩ := Obsoleted.get?_some (ho.cases_at k) hk
    · exact h.cases_at k _ hc
    · exact (h.cases_at k c hc).obsolete
  · intro k l' hk
    refine ho.lesson_source hk ?_
    obtain ⟨l, hl, rfl | rfl⟩ := Obsoleted.get?_some (ho.lessons_at k) hk
    · exact h.lessons_at k _ hl
    · exact (h.lessons_at k l hl).obsolete
  · intro k p' hk
    obtain ⟨p, hp, rfl | rfl⟩ := Obsoleted.get?_some (ho.policies_at k) hk
    · exact h.policies_at k _ hp
    · exact h.policies_at k p hp
  · intro k c' hk
    obtain ⟨c, hc, _⟩ := Obsoleted.get?_some (ho.cases_at k) hk
    exact Obsoleted.get?_none (ho.lessons_at k) (h.case_not_lesson k c hc)
  · intro k c' hk
    obtain ⟨c, hc, _⟩ := Obsoleted.get?_some (ho.cases_at k) hk
    exact Obsoleted.get?_none (ho.policies_at k) (h.case_not_policy k c hc)
  · intro k l' hk
    obtain ⟨l, hl, _⟩ := Obsoleted.get?_some (ho.lessons_at k) hk
    exact Obsoleted.get?_none (ho.policies_at k) (h.lesson_not_policy k l hl)

end Records

end TraceBackedMemory
