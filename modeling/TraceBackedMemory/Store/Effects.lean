import TraceBackedMemory.Store.Runs

namespace TraceBackedMemory

open Text Raising

section Completion

def Trace.identity (t : Trace) : Trace :=
  { t with
    outputHash := none
    toolOutputs := []
    evalResult := .unknown
    latencyMs := none
    costUsd := none
    error := none
    traceUri := none }

def Trace.Completes (t t' : Trace) : Prop :=
  t'.identity = t.identity ∧ (t.evalResult.evaluated = true → t' = t)

def TracesCompleted (py : Python) (d d' : Dict Str Trace) : Prop :=
  ∀ k, (d.get? k = none ∧ d'.get? k = none) ∨
    ∃ t t', d.get? k = some t ∧ d'.get? k = some t' ∧ t.Completes t' ∧
      (t' = t ∨ validateTrace py t' = .ok ())

def MemoryUsageLog.unmeasured (log : MemoryUsageLog) : MemoryUsageLog :=
  { log with
    evalResult := none
    memoryCausedFailure := false }

def MemoryUsageLog.Seals (log log' : MemoryUsageLog) : Prop :=
  log'.unmeasured = log.unmeasured ∧ (log' = log ∨ validateUsageLog log' = .ok ())

theorem Trace.Completes.refl (t : Trace) : t.Completes t := ⟨rfl, fun _ => rfl⟩

theorem TracesCompleted.refl (py : Python) (d : Dict Str Trace) : TracesCompleted py d d := by
  intro k
  cases h : d.get? k with
  | none => exact .inl ⟨rfl, rfl⟩
  | some t => exact .inr ⟨t, t, rfl, rfl, Trace.Completes.refl t, .inl rfl⟩

theorem MemoryUsageLog.Seals.refl (log : MemoryUsageLog) : log.Seals log := ⟨rfl, .inl rfl⟩

theorem identity_write (t : Trace) (v : CompletionValue) : (t.write v).identity = t.identity := by
  cases v <;> rfl

theorem identity_completionCandidate (t : Trace) (r : EvalResult) (values : List CompletionValue) :
    (completionCandidate t r values).identity = t.identity := by
  have hfold : ∀ (values : List CompletionValue) (u : Trace),
      (values.foldl Trace.write u).identity = u.identity := by
    intro values
    induction values with
    | nil => exact fun u => rfl
    | cons v values ih => exact fun u => (ih (u.write v)).trans (identity_write u v)
  exact hfold values _

theorem completes_of_candidate {py : Python} {t t' : Trace} {r : EvalResult}
    {values : List CompletionValue} (h : completedTraceCandidate py t r values = .ok t') :
    t.Completes t' ∧ (t' = t ∨ validateTrace py t' = .ok ()) := by
  simp only [completedTraceCandidate, seq_eq_ok] at h
  obtain ⟨hv, h⟩ := h
  split at h
  · split at h
    · cases h
      exact ⟨Trace.Completes.refl t, .inl rfl⟩
    · cases h
  · rename_i hr
    simp only [seq_eq_ok, pure_eq_ok] at h
    obtain ⟨_, rfl⟩ := h
    exact ⟨⟨identity_completionCandidate t r values, fun he => absurd he hr⟩, .inr hv⟩

theorem seals_of_candidate {log log' : MemoryUsageLog} {r : EvalResult} {b : Bool}
    (h : sealedUsageOutcomeCandidate log r b = .ok log') : log.Seals log' := by
  unfold sealedUsageOutcomeCandidate at h
  split at h
  · split at h
    · simp only [seq_eq_ok, pure_eq_ok] at h
      obtain ⟨_, rfl⟩ := h
      exact .refl log
    · cases h
  · simp only [seq_eq_ok, pure_eq_ok] at h
    obtain ⟨hv, rfl⟩ := h
    exact ⟨rfl, .inr hv⟩

theorem tracesCompleted_set {py : Python} {d : Dict Str Trace} {k : Str} {t t' : Trace}
    (ht : d.get? k = some t) (hc : t.Completes t') (hv : t' = t ∨ validateTrace py t' = .ok ()) :
    TracesCompleted py d (d.set k t') := by
  intro j
  by_cases hj : j = k
  · subst hj
    exact .inr ⟨t, t', ht, by simp, hc, hv⟩
  · rw [Dict.get?_set_of_ne d t' hj]
    exact TracesCompleted.refl py d j

theorem tracesCompleted_update {py : Python} {d e : Dict Str Trace}
    (h : ∀ k t', e.get? k = some t' → ∃ t, d.get? k = some t ∧ t.Completes t' ∧
      (t' = t ∨ validateTrace py t' = .ok ())) : TracesCompleted py d (d.update e.entries) := by
  intro k
  rw [Dict.get?_update_dict]
  cases he : e.get? k with
  | none =>
    rw [Option.none_or]
    exact TracesCompleted.refl py d k
  | some t' =>
    obtain ⟨t, ht, hc, hv⟩ := h k t' he
    exact .inr ⟨t, t', ht, by simp, hc, hv⟩

theorem seals_set {logs : List MemoryUsageLog} {i : Nat} {log log' : MemoryUsageLog}
    (hi : logs[i]? = some log) (hs : log.Seals log') :
    List.Forall₂ MemoryUsageLog.Seals logs (logs.set i log') := by
  rw [List.forall₂_iff_get]
  refine ⟨by simp, ?_⟩
  intro j hj hj'
  simp only [List.get_eq_getElem, List.getElem_set]
  by_cases hij : i = j
  · subst hij
    have hlog : logs[i] = log := by
      rw [List.getElem?_eq_getElem hj] at hi
      exact Option.some.inj hi
    simpa [hlog] using hs
  · simpa [hij] using MemoryUsageLog.Seals.refl _

theorem Seals.trans_of_eq {a b c : MemoryUsageLog} (hab : a.Seals b) (hbc : b.Seals c) :
    a.Seals c := by
  refine ⟨hbc.1.trans hab.1, ?_⟩
  rcases hbc.2 with rfl | hc
  · exact hab.2
  · exact .inr hc

end Completion

section Effects

def Store.LogValid (s : Store) (log : MemoryUsageLog) : Prop :=
  validateUsageLog log = .ok () ∧ s.validateUsageLogMemoryIds log = .ok () ∧
    s.validateUsageLogTrace log = .ok ()

def Store.appended (s : Store) (log : MemoryUsageLog) (next : Nat × Nat) : Store :=
  { s with
    usageLogs := s.usageLogs ++ [log]
    usageLogIndexes := s.usageLogIndexes.set log.decisionId s.usageLogs.length
    nextDecisionNumber := next.1
    nextGateRequestNumber := next.2 }

def Store.closed (s : Store) (requestId : Str) : Store :=
  { s with
    pendingGateRequests := s.pendingGateRequests.erase requestId
    finalizedGateRequestOrder := (trimFinalized finalizedGateRequestMaxItems
      (s.finalizedGateRequestOrder ++ [requestId])
      (s.finalizedGateRequestIds.insert requestId)).1
    finalizedGateRequestIds := (trimFinalized finalizedGateRequestMaxItems
      (s.finalizedGateRequestOrder ++ [requestId])
      (s.finalizedGateRequestIds.insert requestId)).2 }

structure CaseRewritten (c c' : FailureCase) : Prop where
  draft : c.status = .draft
  case_id : c'.caseId = c.caseId
  source_trace_id : c'.sourceTraceId = c.sourceTraceId
  commit_sha : c'.commitSha = c.commitSha
  valid : validateFailureCase c' = .ok ()

structure Obsoleted (s : Store) (cases : Dict Str FailureCase) (lessons : Dict Str Lesson)
    (policies : Dict Str ProjectPolicy) : Prop where
  cases_at : ∀ k, cases.get? k = s.failureCases.get? k ∨
    ∃ c, s.failureCases.get? k = some c ∧ cases.get? k = some (transitionFailureCaseToObsolete c)
  lessons_at : ∀ k, lessons.get? k = s.lessons.get? k ∨
    ∃ l, s.lessons.get? k = some l ∧ lessons.get? k = some (transitionLessonToObsolete l)
  policies_at : ∀ k, policies.get? k = s.projectPolicies.get? k ∨
    ∃ p, s.projectPolicies.get? k = some p ∧
      policies.get? k = some (transitionProjectPolicyToObsolete p)
  cascade : ∀ k l, lessons.get? k = some l → l.status = .active →
    cases.get? l.sourceCaseId = s.failureCases.get? l.sourceCaseId

inductive Effect (py : Python) : Store → Store → Prop where
  | recordTrace {s : Store} (t : Trace) (hv : validateTrace py t = .ok ())
      (hn : s.traces.get? t.traceId = none) :
      Effect py s { s with
        traces := s.traces.set t.traceId t
        traceIdsByRunId := s.traceIdsByRunId.set t.runId
          ((s.traceIdsByRunId.get? t.runId).getD [] ++ [t.traceId]) }
  | complete {s : Store} (traces : Dict Str Trace) (logs : List MemoryUsageLog)
      (ht : TracesCompleted py s.traces traces)
      (hl : List.Forall₂ MemoryUsageLog.Seals s.usageLogs logs) :
      Effect py s { s with
        traces := traces
        usageLogs := logs }
  | addCase {s : Store} (c : FailureCase) (hc : s.checkNewFailureCase c = .ok ()) :
      Effect py s { s with failureCases := s.failureCases.set c.caseId c }
  | rewriteCase {s : Store} (k : Str) (c c' : FailureCase) (hk : s.failureCases.get? k = some c)
      (hc : CaseRewritten c c') :
      Effect py s { s with failureCases := s.failureCases.set k c' }
  | obsolete {s : Store} (cases : Dict Str FailureCase) (lessons : Dict Str Lesson)
      (policies : Dict Str ProjectPolicy) (ho : Obsoleted s cases lessons policies) :
      Effect py s { s with
        failureCases := cases
        lessons := lessons
        projectPolicies := policies }
  | addLesson {s : Store} (l : Lesson) (hl : s.validatedLessonCandidate py l s.lessons = .ok ()) :
      Effect py s { s with lessons := s.lessons.set l.lessonId l }
  | addPolicy {s : Store} (p : ProjectPolicy) (hp : s.checkNewProjectPolicy py p = .ok ()) :
      Effect py s { s with projectPolicies := s.projectPolicies.set p.policyId p }
  | prepare {s : Store} (a : PrepareArguments) (r : MemoryGateRequest)
      (hr : s.preparedRequest py a = .ok r) :
      Effect py s { s with
        nextGateRequestNumber := s.nextGateRequestNumber + 1
        pendingGateRequests := s.pendingGateRequests.set r.requestId r }
  | cancel {s : Store} (k : Str) :
      Effect py s { s with pendingGateRequests := s.pendingGateRequests.erase k }
  | log {s : Store} (log : MemoryUsageLog) (next : Nat × Nat) (hv : s.LogValid log)
      (hr : log.requestId = none) (hn : s.nextNumbers log = .ok next) :
      Effect py s (s.appended log next)
  | finalize {s : Store} (r : MemoryGateRequest) (log : MemoryUsageLog) (next : Nat × Nat)
      (hp : s.checkPending r = .ok ()) (hv : s.LogValid log)
      (hr : log.requestId = some r.requestId) (hn : s.nextNumbers log = .ok next) :
      Effect py s ((s.appended log next).closed r.requestId)

abbrev Effects (py : Python) : Store → Store → Prop := Relation.ReflTransGen (Effect py)

end Effects

open Text Raising

theorem dropAffix_append (affix s : Str) : dropAffix affix (affix ++ s) = some s := by
  simp [dropAffix]

theorem decisionNumber_decisionIdText (n : Nat) : decisionNumber? (decisionIdText n) = some n := by
  simp [decisionNumber?, decisionIdText, dropAffix_append]

theorem sessionSuffix_append (session : SessionId) (s : Str) :
    sessionSuffix? (session.text ++ lit "_" ++ s) = some s := by
  have htake : (session.text ++ lit "_" ++ s).take 32 = session.text := by
    rw [List.append_assoc]
    exact List.take_left' session.length_text
  have hdrop : (session.text ++ lit "_" ++ s).drop 32 = lit "_" ++ s := by
    rw [List.append_assoc]
    exact List.drop_left' session.length_text
  rw [sessionSuffix?, htake, hdrop, if_pos ⟨session.length_text, session.hex_text⟩,
    dropAffix_append]

theorem requestNumber_requestIdText (session : SessionId) (n : Nat) :
    requestNumber? (requestIdText session n) = some n := by
  rw [requestNumber?, requestIdText, List.append_assoc, List.append_assoc, dropAffix_append,
    Option.bind_some, ← List.append_assoc, sessionSuffix_append, Option.bind_some,
    parseDigits_padded]
  rfl

theorem requestIdText_inj {session : SessionId} {m n : Nat}
    (h : requestIdText session m = requestIdText session n) : m = n := by
  have := congrArg requestNumber? h
  simpa [requestNumber_requestIdText] using this

theorem requestIdText_session_inj {s₁ s₂ : SessionId} {m n : Nat}
    (h : requestIdText s₁ m = requestIdText s₂ n) : s₁.text = s₂.text := by
  simp only [requestIdText, List.append_assoc, List.append_cancel_left_eq] at h
  have := congrArg (List.take 32) h
  rwa [List.take_left' s₁.length_text, List.take_left' s₂.length_text] at this

theorem length_requestIdText (session : SessionId) (n : Nat) :
    (requestIdText session n).length = 46 + (padded 6 n).length := by
  have ha : requestAffix.length = 13 := by decide
  have hu : (lit "_").length = 1 := by decide
  simp only [requestIdText, List.length_append, ha, hu, session.length_text]

theorem requestIdText_fits_iff (session : SessionId) (n : Nat) :
    (requestIdText session n).length ≤ memoryIdMaxChars ↔ n < 10 ^ 82 := by
  have hp : (padded 6 n).length ≤ 82 ↔ n < 10 ^ 82 := length_padded_le_iff (by omega) (by omega)
  rw [length_requestIdText, memoryIdMaxChars, ← hp]
  omega

theorem blank_requestIdText (session : SessionId) (n : Nat) :
    blank (requestIdText session n) = false := by
  rw [blank, Bool.eq_false_iff]
  intro h
  rw [isBlank_iff] at h
  have hg : cp 'g' ∈ requestIdText session n := by
    simp only [requestIdText, List.mem_append]
    exact .inl (.inl (.inl (by decide)))
  exact absurd (h _ hg) (by decide)

end TraceBackedMemory
