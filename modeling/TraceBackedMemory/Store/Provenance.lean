import TraceBackedMemory.Store.Atomicity

namespace TraceBackedMemory

open Text Raising

variable {py : Python} {s : Store}

structure HumanReviewed (c : FailureCase) : Prop where
  reviewer : ∃ v, c.reviewedBy = some v ∧ blank v = false
  root_cause : ∃ v, c.rootCause = some v ∧ blank v = false
  reviewed_at : ∃ v, c.reviewedAt = some v ∧ isRfc3339 v = true

structure Provenance (s : Store) (l : Lesson) (c : FailureCase) (t : Trace) : Prop where
  stored_case : s.failureCases.get? l.sourceCaseId = some c
  verified : c.status = .verified
  not_obsolete : c.status ≠ .obsolete
  regression : c.regressionPassed = true
  reviewed : HumanReviewed c
  stored_trace : s.traces.get? c.sourceTraceId = some t
  failing : t.evalResult = .fail ∨ t.evalResult = .error
  commit : c.commitSha = t.commitSha
  repo : ∀ v, t.repo = some v → l.scope.get? (lit "repo") = some v
  tenant : ∀ v, t.tenant = some v → l.scope.get? (lit "tenant") = some v

theorem some_of_not_missing {o : Option Str} (h : missing o = false) : ∃ v, o = some v := by
  cases o with
  | none => simp [missing] at h
  | some v => exact ⟨v, rfl⟩

theorem not_blank_of_validateOptionalString {v fieldName recordLabel : Str} {n : Option Nat}
    (h : validateOptionalString (some v) fieldName recordLabel true n = .ok ()) :
    blank v = false := by
  simp only [validateOptionalString, seq_eq_ok, raiseIf_eq_ok, not_or, true_and,
    Bool.not_eq_true] at h
  exact h.1.2

theorem humanReviewed_of_valid {c : FailureCase} (h : validateFailureCase c = .ok ())
    (hv : c.status = .verified) : HumanReviewed c := by
  simp only [validateFailureCase, bind_eq_ok, exists_unit, raiseIf_eq_ok, checkEach_eq_ok, not_and,
    Bool.not_eq_true] at h
  obtain ⟨_, _, _, hopt, hfields, hat, _⟩ := h
  have hall := hfields hv
  simp only [FailureCase.unverifiable, Bool.or_eq_false_iff] at hall
  obtain ⟨⟨⟨_, hcause⟩, hby⟩, hwhen⟩ := hall
  obtain ⟨cause, hcause⟩ := some_of_not_missing hcause
  obtain ⟨reviewer, hby⟩ := some_of_not_missing hby
  obtain ⟨at', hwhen⟩ := some_of_not_missing hwhen
  refine ⟨⟨reviewer, hby, ?_⟩, ⟨cause, hcause, ?_⟩, ⟨at', hwhen, ?_⟩⟩
  · refine not_blank_of_validateOptionalString (hopt
      (lit "reviewed_by", some reviewer, some metadataValueMaxChars) ?_)
    simp [FailureCase.optionalFields, hby]
  · refine not_blank_of_validateOptionalString (hopt (lit "root_cause", some cause, none) ?_)
    simp [FailureCase.optionalFields, hcause]
  · simpa [hwhen, validateOptionalRfc3339] using hat

theorem preservesSource_eq_ok {l : Lesson} {fieldName : Str} {o : Option Str}
    (h : preservesSource l fieldName o = .ok ()) {v : Str} (hv : o = some v) :
    l.scope.get? fieldName = some v := by
  subst hv
  simpa [preservesSource] using h

theorem active_lesson_provenance (h : Reachable py s) {k : Str} {l : Lesson}
    (hl : s.lessons.get? k = some l) (ha : l.status = .active) : ∃ c t, Provenance s l c t := by
  have hs := h.sound.records
  obtain ⟨c, t, hc, ht, hsrc⟩ := (hs.lessons_at k l hl).source
  have hcase := hs.cases_at _ c hc
  obtain ⟨t', ht', hf, hcommit⟩ := hcase.source
  rw [ht] at ht'
  cases ht'
  have hv := hsrc.verified ha
  refine ⟨c, t, hc, hv, by simp [hv], hsrc.regression, humanReviewed_of_valid hcase.valid hv, ht,
    by simpa [EvalResult.failing] using hf, hcommit, ?_, ?_⟩
  · exact fun v hrepo => preservesSource_eq_ok hsrc.repo hrepo
  · exact fun v htenant => preservesSource_eq_ok hsrc.tenant htenant

set_option maxRecDepth 20000 in
theorem sampleStore_lesson : sampleStore.lessons.get? (lit "lesson_1") = some sampleLesson := by
  decide +kernel

theorem active_lesson_provenance_sample :
    sampleStore.lessons.get? (lit "lesson_1") = some sampleLesson ∧
      ∃ c t, Provenance sampleStore sampleLesson c t :=
  ⟨sampleStore_lesson, active_lesson_provenance sampleStore_reachable sampleStore_lesson rfl⟩

end TraceBackedMemory
