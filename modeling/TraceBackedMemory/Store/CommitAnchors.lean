import TraceBackedMemory.Store.Selection

namespace TraceBackedMemory

open Text Raising

section ChangeSets

structure FieldChange where
  fieldName : Str
  oldValue : Option Str
  newValue : Option Str
  deriving DecidableEq

structure PRChangeSet where
  fieldChanges : List FieldChange
  deriving DecidableEq

def prChangeSetFields : List Str :=
  [lit "prompt_version", lit "prompt_family", lit "tool", lit "tool_schema_version", lit "model", lit "eval_suite"]

def prChangeSetMaxFields : Nat := prChangeSetFields.length

def legacyPrWarningFields : List Str :=
  [lit "prompt_version", lit "prompt_family", lit "tool_schema_version", lit "tool", lit "model", lit "model_family",
    lit "eval_suite"]

def validatedLegacyPrWarningFields (changedFields : List Str) : Except Exn (List Str) := do
  raiseIf (∃ name ∈ changedFields, blank name = true)
    (valueError "changed_fields must be a list of non-empty strings")
  return (changedFields.filter (fun name => decide (name ∈ legacyPrWarningFields))).eraseDups

def checkEndpoint (fieldName : Str) (value : Option Str) : Except Exn Unit := do
  raiseIf (∃ v ∈ value, blank v = true)
    (.valueError (lit "change_set " ++ fieldName ++
      lit " endpoint values must be non-empty, non-whitespace strings or None"))
  raiseIf (∃ v ∈ value, metadataValueMaxChars < v.length)
    (.valueError (lit "change_set " ++ fieldName ++ lit " endpoint values must be at most " ++
      decimal metadataValueMaxChars ++ lit " characters"))

def checkChange (c : MemoryContext) (f : FieldChange) : Except Exn Unit := do
  checkEndpoint f.fieldName f.oldValue
  checkEndpoint f.fieldName f.newValue
  raiseIf (f.oldValue = f.newValue)
    (.valueError (lit "change_set " ++ f.fieldName ++ lit " old and new values must differ"))
  raiseIf (f.newValue ≠ contextValue c f.fieldName)
    (.valueError (lit "change_set " ++ f.fieldName ++ lit " new value must match context"))

def validatedPrChangeSet (c : MemoryContext) (cs : PRChangeSet) : Except Exn (List FieldChange) := do
  let names := cs.fieldChanges.map FieldChange.fieldName
  validateMemoryContext c
  raiseIf (cs.fieldChanges = []) (valueError "change_set.field_changes must be a non-empty tuple")
  raiseIf (prChangeSetMaxFields < cs.fieldChanges.length)
    (.valueError (lit "change_set.field_changes accepts at most " ++ decimal prChangeSetMaxFields ++ lit " entries"))
  refuseListed "unsupported change_set fields: "
    (sortedStrs (names.filter (fun name => decide (name ∉ prChangeSetFields))).dedup)
  refuseListed "duplicate change_set fields: " (sortedStrs (names.filter (fun name => decide (1 < names.count name))).dedup)
  checkEach (checkChange c) cs.fieldChanges
  return cs.fieldChanges.insertionSort (fun a b => a.fieldName ≤ b.fieldName)

end ChangeSets

section RelatedCases

inductive PRChangeEndpoint where
  | old
  | new
  | both
  deriving DecidableEq

def traceValues (t : Trace) : List (Str × Option Str) :=
  [(lit "prompt_version", t.promptVersion), (lit "prompt_family", t.promptFamily),
    (lit "tool_schema_version", t.toolSchemaVersion), (lit "model", t.model), (lit "eval_suite", t.evalSuite)]

def traceValue (t : Trace) (key : Str) : Option Str := (Dict.lookupIn key (traceValues t)).join

-- the tools of a trace are the same names with and without a change set
def caseMatchesContext (fc : FailureCase) (t : Trace) (c : MemoryContext) (changedFields : List Str) : Bool :=
  decide (fc.status = .verified) && fc.regressionPassed && decide (t.repo = some c.repo) && decide (t.tenant = c.tenant) &&
    c.failureType.elim true (fun value => decide (fc.failureType = value)) &&
    (decide (lit "tool" ∈ changedFields) || c.tool.elim true (fun name => decide (name ∈ traceToolNames t))) &&
    (traceValues t).all (fun f => decide (f.1 ∈ changedFields) ||
      (contextValue c f.1).elim true (fun value => decide (f.2 = some value)))

def traceMatchesChangeValue (t : Trace) (fieldName : Str) (expected : Option Str) : Bool :=
  if fieldName = lit "tool" then
    expected.elim (decide (traceToolNames t = [])) (fun name => decide (name ∈ traceToolNames t))
  else decide (traceValue t fieldName = expected)

def matchedPrChangeEndpoint (t : Trace) (changes : List FieldChange) : Option PRChangeEndpoint :=
  let oldMatches := changes.all (fun f => traceMatchesChangeValue t f.fieldName f.oldValue)
  let newMatches := changes.all (fun f => traceMatchesChangeValue t f.fieldName f.newValue)
  if oldMatches && newMatches then some .both
  else if oldMatches then some .old
  else if newMatches then some .new
  else none

structure RelatedCase where
  case : FailureCase
  trace : Trace
  endpoint : Option PRChangeEndpoint

def Store.relatedCase (s : Store) (c : MemoryContext) (changes : Option (List FieldChange)) (fc : FailureCase) :
    Option RelatedCase := do
  let t ← s.traces.get? fc.sourceTraceId
  guard (caseMatchesContext fc t c ((changes.getD []).map FieldChange.fieldName))
  match changes with
  | none => some ⟨fc, t, none⟩
  | some changes =>
    let endpoint ← matchedPrChangeEndpoint t changes
    return ⟨fc, t, some endpoint⟩

def Store.prRelatedCaseRecords (s : Store) (c : MemoryContext) (changes : Option (List FieldChange)) : List RelatedCase :=
  s.failureCases.values.filterMap (s.relatedCase c changes)

def Store.prReportCommitAnchors (s : Store) (c : MemoryContext) (changeSet : Option PRChangeSet) :
    Except Exn (List Str) := do
  validateMemoryContext c
  match changeSet with
  | none => return sortedStrs ((s.prRelatedCaseRecords c none).map (fun r => r.case.commitSha)).dedup
  | some cs =>
    let changes ← validatedPrChangeSet c cs
    return sortedStrs ((s.prRelatedCaseRecords c (some changes)).map (fun r => r.case.commitSha)).dedup

end RelatedCases

section Reports

structure PRCaseProvenance where
  caseId : Str
  sourceTraceId : Str
  commitSha : Str
  fixCommitSha : Option Str
  traceUri : Option Str
  failureType : Str
  matchedChangeEndpoint : Option PRChangeEndpoint
  deriving DecidableEq

structure PRMemoryReport where
  relatedCaseIds : List Str
  suggestedRegressionTests : List Str
  warnings : List Str
  relatedCaseProvenance : List PRCaseProvenance
  deriving DecidableEq

def caseProvenance (r : RelatedCase) : PRCaseProvenance where
  caseId := r.case.caseId
  sourceTraceId := r.case.sourceTraceId
  commitSha := r.case.commitSha
  fixCommitSha := r.case.fixCommitSha
  traceUri := r.trace.traceUri
  failureType := r.case.failureType
  matchedChangeEndpoint := r.endpoint

def regressionSuggestion (c : MemoryContext) (r : RelatedCase) : Str :=
  lit "Run " ++ r.case.failureType ++ lit " regression for tool " ++ (truthy c.tool).getD (lit "affected tool") ++
    lit " before merging."

def changeWarning (c : MemoryContext) (r : RelatedCase) (changedField : Str) : Str :=
  changedField ++ lit " change touches known failure case " ++ r.case.caseId ++ lit " for " ++
    (truthy c.tool).getD (lit "known failure area") ++ lit "."

def reportOf (c : MemoryContext) (warningFields : List Str) (records : List RelatedCase) : PRMemoryReport where
  relatedCaseIds := records.map (fun r => r.case.caseId)
  suggestedRegressionTests := (records.map (regressionSuggestion c)).eraseDups
  warnings := (records.flatMap (fun r => warningFields.map (changeWarning c r))).eraseDups
  relatedCaseProvenance := records.map caseProvenance

def ancestralRecords (records : List RelatedCase) : Option (Dict Str Bool) → Except Exn (List RelatedCase)
  | none => .ok records
  | some relations => do
    requireCommitRelations (records.map (fun r => some r.case.commitSha)) relations
    return records.filter (fun r => (relations.get? r.case.commitSha).getD false)

def warningFields (c : MemoryContext) (changedFields : Option (List Str)) (changeSet : Option PRChangeSet) :
    Except Exn (List Str × Option (List FieldChange)) :=
  match changedFields, changeSet with
  | some names, none => do
    let fields ← validatedLegacyPrWarningFields names
    return (fields, none)
  | none, some cs => do
    let changes ← validatedPrChangeSet c cs
    return (changes.map FieldChange.fieldName, some changes)
  | _, _ => .error (valueError "exactly one of changed_fields or change_set must be provided")

def Store.prMemoryReport (s : Store) (c : MemoryContext) (changedFields : Option (List Str))
    (changeSet : Option PRChangeSet) (commitAncestry : Option CommitAncestryEvidence) : Except Exn PRMemoryReport := do
  validateMemoryContext c
  let (fields, changes) ← warningFields c changedFields changeSet
  let relations ← validatedCommitAncestry c commitAncestry
  let records ← ancestralRecords (s.prRelatedCaseRecords c changes) relations
  return reportOf c fields (records.insertionSort (fun a b => a.case.caseId ≤ b.case.caseId))

end Reports

open Text Raising

variable {py : Python} {s : Store} {c : MemoryContext} {r : Retrieval}

section Requirements

variable {value name text : Str} {limit : Option Nat}

theorem requireNonEmptyString_eq_ok :
    requireNonEmptyString value name limit = .ok () ↔ blank value = false ∧ tooLong value limit = false := by
  simp only [requireNonEmptyString, bind_eq_ok, exists_unit, raiseIf_eq_ok, Bool.not_eq_true]

theorem validateRequiredString_eq_ok :
    validateRequiredString value name text limit = .ok () ↔ blank value = false ∧ tooLong value limit = false := by
  simp only [validateRequiredString, bind_eq_ok, exists_unit, raiseIf_eq_ok, Bool.not_eq_true]

theorem of_validateOptional {o : Option Str} (h : validateOptionalString o name text true limit = .ok ())
    (hpresent : missing o = false) : blank (o.getD []) = false ∧ tooLong (o.getD []) limit = false := by
  cases o with
  | none => cases hpresent
  | some v =>
    simp only [validateOptionalString, bind_eq_ok, exists_unit, raiseIf_eq_ok, true_and, not_or, Bool.not_eq_true] at h
    exact ⟨h.1.2, h.2⟩

theorem blank_of_rfc3339 (h : isRfc3339 value = true) : blank value = false := by
  unfold isRfc3339 at h
  split at h
  · simp only [Bool.and_eq_true, decide_eq_true_eq] at h
    refine Bool.not_eq_true _ ▸ fun hblank => ?_
    have hdash := isBlank_iff.mp hblank (cp '-') (by simp [h.1.1.1])
    exact absurd hdash (by decide)
  · cases h

variable {fc : FailureCase}

theorem requireVerifiedFailureCase_of_valid (h : validateFailureCase fc = .ok ()) (hv : fc.status = .verified) :
    requireVerifiedFailureCase fc = .ok () := by
  simp only [validateFailureCase, bind_eq_ok, exists_unit, checkEach_eq_ok, List.forall_mem_cons, raiseIf_eq_ok,
    FailureCase.optionalFields, validateRequiredString_eq_ok, not_and, Bool.not_eq_true] at h
  obtain ⟨⟨hid, htrace, -⟩, ⟨hcommit, htype, -⟩, hsymptom, ⟨hroot, hfix, hfixCommit, hreviewer, -⟩, hverifiable, hreviewed, -⟩ := h
  have hcomplete := hverifiable hv
  simp only [FailureCase.unverifiable, Bool.or_eq_false_iff, Bool.not_eq_false'] at hcomplete
  obtain ⟨⟨⟨⟨⟨hnofix, hnocommit⟩, hregression⟩, hnoroot⟩, hnoreviewer⟩, hnoreviewed⟩ := hcomplete
  have hrfc : isRfc3339 (fc.reviewedAt.getD []) = true := by
    cases hat : fc.reviewedAt with
    | none =>
      rw [hat] at hnoreviewed
      cases hnoreviewed
    | some v =>
      rw [hat, validateOptionalRfc3339, raiseIf_eq_ok, Bool.not_eq_false] at hreviewed
      exact hreviewed
  have hreview : requireCompletedReview fc = .ok () := by
    simp only [requireCompletedReview, requireRfc3339Timestamp, bind_eq_ok, exists_unit, raiseIf_eq_ok,
      requireNonEmptyString_eq_ok, List.mem_cons, List.not_mem_nil, or_false, not_exists, not_and, Bool.not_eq_true,
      forall_eq_or_imp, forall_eq, Bool.not_eq_false]
    exact ⟨⟨(of_validateOptional hreviewer hnoreviewer).1, (of_validateOptional hroot hnoroot).1, blank_of_rfc3339 hrfc⟩,
      ⟨⟨blank_of_rfc3339 hrfc, rfl⟩, hrfc⟩, of_validateOptional hreviewer hnoreviewer, of_validateOptional hroot hnoroot⟩
  simp only [requireVerifiedFailureCase, requireFailureCaseCore, requireFailureCaseIdentity, bind_eq_ok, exists_unit,
    raiseIf_eq_ok, requireNonEmptyString_eq_ok, hreview, true_and, not_not, ne_eq, Bool.not_eq_false]
  exact ⟨hv, hregression, ⟨⟨hid, htrace, hcommit⟩, htype, hsymptom⟩, of_validateOptional hfix hnofix,
    of_validateOptional hfixCommit hnocommit⟩

end Requirements

section Totality

def MemorySource.memoryId : MemorySource → Str
  | .lesson l => l.lessonId
  | .policy p => p.policyId
  | .failureCase fc => fc.caseId

-- the record of a source is stored under its own id
def Store.Stores (s : Store) : MemorySource → Prop
  | .lesson l => s.lessons.get? l.lessonId = some l
  | .policy p => s.projectPolicies.get? p.policyId = some p
  | .failureCase fc => s.failureCases.get? fc.caseId = some fc

variable {source : MemorySource} {m : MemoryItem} {o : Option MemoryItem} {found : List MemoryItem}

theorem mem_metadataSources : source ∈ s.metadataSources c ↔
    (∃ k l, s.lessons.get? k = some l ∧ source = .lesson l) ∨
      (∃ k p, s.projectPolicies.get? k = some p ∧ source = .policy p) ∨
      (c.mode = .debug ∨ c.mode = .repair) ∧ ∃ k fc, s.failureCases.get? k = some fc ∧ source = .failureCase fc := by
  have mapped {α : Type} {d : Dict Str α} {f : α → MemorySource} :
      source ∈ d.values.map f ↔ ∃ k a, d.get? k = some a ∧ source = f a := by
    rw [List.mem_map]
    constructor
    · rintro ⟨a, ha, rfl⟩
      obtain ⟨k, hk⟩ := Dict.mem_values.mp ha
      exact ⟨k, a, hk, rfl⟩
    · rintro ⟨k, a, hk, rfl⟩
      exact ⟨a, Dict.mem_values.mpr ⟨k, hk⟩, rfl⟩
  simp only [Store.metadataSources, List.mem_append, mapped, List.mem_ite_nil_right, or_assoc]

theorem stores_of_mem (h : Sound py s) (hsource : source ∈ s.metadataSources c) : s.Stores source := by
  obtain ⟨k, l, hl, rfl⟩ | ⟨k, p, hp, rfl⟩ | ⟨-, k, fc, hfc, rfl⟩ := mem_metadataSources.mp hsource
  · rw [← (h.records.lessons_at k l hl).key] at hl
    exact hl
  · rw [← (h.records.policies_at k p hp).1] at hp
    exact hp
  · rw [← (h.records.cases_at k fc hfc).key] at hfc
    exact hfc

theorem itemFromLesson_total (h : Sound py s) {l : Lesson} (hl : s.lessons.get? l.lessonId = some l) :
    ∃ m, s.memoryItemFromLesson l = .ok m ∧ m.memoryId = l.lessonId := by
  obtain ⟨fc, t, hfc, ht, -⟩ := (h.records.lessons_at _ l hl).source
  have hcase : fc.caseId = l.sourceCaseId := (h.records.cases_at _ fc hfc).key
  have htrace : fc.sourceTraceId = t.traceId := ((h.records.traces_at _ t ht).1).symm
  simp only [Store.memoryItemFromLesson, memoryItemFromLesson, bind_eq_ok, exists_unit, demand_eq_ok, raiseIf_eq_ok,
    pure_eq_ok, ne_eq, not_not]
  exact ⟨_, ⟨fc, hfc, t, ht, hcase, htrace, rfl⟩, rfl⟩

theorem itemFromPolicy_total (h : Sound py s) {p : ProjectPolicy} (hp : s.projectPolicies.get? p.policyId = some p) :
    ∃ m, memoryItemFromProjectPolicy py p = .ok m ∧ m.memoryId = p.policyId := by
  obtain ⟨hvalid, hcontract⟩ := validateStoredPolicy_eq_ok.mp (h.records.policies_at _ p hp).2
  simp only [validateProjectPolicy, bind_eq_ok, exists_unit, validateRequiredString_eq_ok] at hvalid
  simp only [memoryItemFromProjectPolicy, bind_eq_ok, exists_unit, pure_eq_ok, requireNonEmptyString_eq_ok, hcontract,
    true_and]
  exact ⟨_, ⟨⟨hvalid.1.1, rfl⟩, rfl⟩, rfl⟩

theorem itemFromCase_total (h : Sound py s) {fc : FailureCase} {t : Trace}
    (hfc : s.failureCases.get? fc.caseId = some fc) (ht : s.traces.get? fc.sourceTraceId = some t)
    (hverified : fc.status = .verified) (hpassed : fc.regressionPassed = true) :
    ∃ m, memoryItemFromFailureCase fc t = .ok m ∧ m.memoryId = fc.caseId := by
  obtain ⟨-, hvalid, t', ht', -, hcommit⟩ := h.records.cases_at _ fc hfc
  obtain rfl := Option.some.inj (ht.symm.trans ht')
  have htrace : fc.sourceTraceId = t.traceId := ((h.records.traces_at _ t ht).1).symm
  simp only [memoryItemFromFailureCase, memoryItemFromFailureCaseForAudit, bind_eq_ok, exists_unit, raiseIf_eq_ok,
    pure_eq_ok, ne_eq, not_or, not_not, Bool.not_eq_false, requireVerifiedFailureCase_of_valid hvalid hverified, true_and]
  exact ⟨_, ⟨⟨hverified, hpassed⟩, htrace, hcommit, htrace, hcommit, rfl⟩, rfl⟩

theorem metadataCandidate_total (h : Sound py s) (hsource : s.Stores source) :
    ∃ o, s.metadataCandidate py c source = .ok o ∧ ∀ m ∈ o, m.memoryId = source.memoryId := by
  cases source with
  | lesson l =>
    obtain ⟨m, hm, hid⟩ := itemFromLesson_total h hsource
    rw [Store.metadataCandidate, hm]
    split
    · exact ⟨some m, rfl, fun m' hm' => by rw [← Option.mem_some_iff.mp hm']; exact hid⟩
    · exact ⟨none, rfl, fun m' hm' => absurd hm' (Option.not_mem_none m')⟩
  | policy p =>
    obtain ⟨m, hm, hid⟩ := itemFromPolicy_total h hsource
    rw [Store.metadataCandidate, hm]
    split
    · exact ⟨some m, rfl, fun m' hm' => by rw [← Option.mem_some_iff.mp hm']; exact hid⟩
    · exact ⟨none, rfl, fun m' hm' => absurd hm' (Option.not_mem_none m')⟩
  | failureCase fc =>
    have hnone : ∀ m' ∈ (none : Option MemoryItem), m'.memoryId = fc.caseId := fun m' hm' => absurd hm' (Option.not_mem_none m')
    cases ht : s.traces.get? fc.sourceTraceId with
    | none =>
      rw [Store.metadataCandidate, ht]
      exact ⟨none, rfl, hnone⟩
    | some t =>
      rw [Store.metadataCandidate, ht]
      dsimp only
      split
      · exact ⟨none, rfl, hnone⟩
      · rename_i hready
        rw [not_or, not_not, Bool.not_eq_false] at hready
        obtain ⟨m, hm, hid⟩ := itemFromCase_total h hsource ht hready.1 hready.2
        rw [hm]
        dsimp only [bind, Except.bind]
        split_ifs
        · exact ⟨none, rfl, hnone⟩
        · exact ⟨some m, rfl, fun m' hm' => by rw [← Option.mem_some_iff.mp hm']; exact hid⟩
        · exact ⟨none, rfl, hnone⟩

theorem metadataCandidates_total (h : Sound py s) : ∃ found, s.metadataCandidates py c = .ok found := by
  obtain ⟨items, hitems⟩ := collect_total fun source hsource => by
    obtain ⟨o, ho, -⟩ := metadataCandidate_total (c := c) h (stores_of_mem h hsource)
    exact ⟨o, ho⟩
  exact ⟨_, metadataCandidates_eq_ok.mpr ⟨items, hitems, rfl⟩⟩

theorem source_of_found (h : Sound py s) (hfound : s.metadataCandidates py c = .ok found) (hm : m ∈ found) :
    ∃ source ∈ s.metadataSources c, s.metadataCandidate py c source = .ok (some m) ∧ m.memoryId = source.memoryId := by
  obtain ⟨items, hitems, rfl⟩ := metadataCandidates_eq_ok.mp hfound
  obtain ⟨o, ho, hsome⟩ := List.mem_filterMap.mp hm
  obtain rfl : o = some m := hsome
  obtain ⟨source, hsource, hcandidate⟩ := collect_mem hitems ho
  obtain ⟨o', ho', hid⟩ := metadataCandidate_total (c := c) h (stores_of_mem h hsource)
  obtain rfl := Except.ok.inj (hcandidate.symm.trans ho')
  exact ⟨source, hsource, hcandidate, hid m rfl⟩

end Totality

section Anchors

variable {source : MemorySource} {m : MemoryItem} {found : List MemoryItem} {anchors : List Str}
  {relations : Dict Str Bool}

def Store.HasFix (s : Store) (l : Lesson) : Prop :=
  ∃ fc, s.failureCases.get? l.sourceCaseId = some fc ∧ missing fc.fixCommitSha = false

theorem lesson_anchor {l : Lesson} (hl : s.lessons.get? l.lessonId = some l) :
    (∃ anchor, s.commitAnchor l.lessonId = .ok anchor) ↔ s.HasFix l := by
  simp only [Store.commitAnchor, hl, bind_eq_ok, exists_unit, demand_eq_ok, raiseIf_eq_ok, pure_eq_ok, Bool.not_eq_true]
  constructor
  · rintro ⟨_, fc, hfc, hfix, -⟩
    exact ⟨fc, hfc, hfix⟩
  · rintro ⟨fc, hfc, hfix⟩
    exact ⟨_, fc, hfc, hfix, rfl⟩

theorem anchor_of_no_lesson {id : Str} (h : s.lessons.get? id = none) : ∃ anchor, s.commitAnchor id = .ok anchor := by
  rw [Store.commitAnchor, h]
  exact ⟨_, rfl⟩

theorem source_anchor (h : Sound py s) (hsource : s.Stores source) (hfix : ∀ l, source = .lesson l → s.HasFix l) :
    ∃ anchor, s.commitAnchor source.memoryId = .ok anchor := by
  cases source with
  | lesson l => exact (lesson_anchor hsource).mpr (hfix l rfl)
  | policy p =>
    refine anchor_of_no_lesson (Option.eq_none_iff_forall_not_mem.mpr fun l hl => ?_)
    have hstored : s.projectPolicies.get? p.policyId = some p := hsource
    have hnone : s.projectPolicies.get? p.policyId = none := h.records.lesson_not_policy _ l hl
    rw [hnone] at hstored
    cases hstored
  | failureCase fc => exact anchor_of_no_lesson (h.records.case_not_lesson _ fc hsource)

-- a lesson in use has a verified source case, which has a fix commit
theorem hasFix_of_active (h : Sound py s) {k : Str} {l : Lesson} (hl : s.lessons.get? k = some l)
    (hactive : l.status = .active) : s.HasFix l := by
  obtain ⟨fc, t, hfc, -, hsourced⟩ := (h.records.lessons_at k l hl).source
  have hvalid := (h.records.cases_at _ fc hfc).valid
  simp only [validateFailureCase, bind_eq_ok, exists_unit, raiseIf_eq_ok, not_and, Bool.not_eq_true] at hvalid
  obtain ⟨-, -, -, -, hverifiable, -⟩ := hvalid
  have hcomplete := hverifiable (hsourced.verified hactive)
  simp only [FailureCase.unverifiable, Bool.or_eq_false_iff] at hcomplete
  exact ⟨fc, hfc, hcomplete.1.1.1.1.2⟩

theorem found_of_source (hfound : s.metadataCandidates py c = .ok found) (hsource : source ∈ s.metadataSources c)
    (hm : s.metadataCandidate py c source = .ok (some m)) : m ∈ found := by
  obtain ⟨items, hitems, rfl⟩ := metadataCandidates_eq_ok.mp hfound
  obtain ⟨o, ho, hcandidate⟩ := mem_of_forall₂ (collect_eq_ok.mp hitems) hsource
  obtain rfl := Except.ok.inj (hm.symm.trans hcandidate)
  exact List.mem_filterMap.mpr ⟨_, ho, rfl⟩

theorem scope_of_candidate {l : Lesson} (hm : s.metadataCandidate py c (.lesson l) = .ok (some m)) :
    hasMetadataMatch l.scope c = true := by
  rw [Store.metadataCandidate] at hm
  split at hm
  · assumption
  · cases hm

theorem candidateCommitAnchors_iff (h : Sound py s) : (∃ anchors, s.candidateCommitAnchors py c = .ok anchors) ↔
    validateMemoryContext c = .ok () ∧
      ∀ l ∈ s.lessons.values, hasMetadataMatch l.scope c = true → s.HasFix l := by
  simp only [Store.candidateCommitAnchors, bind_eq_ok, exists_unit, pure_eq_ok]
  constructor
  · rintro ⟨_, hcontext, found, hfound, anchors, hanchors, -⟩
    refine ⟨hcontext, fun l hl hmatch => ?_⟩
    obtain ⟨k, hk⟩ := Dict.mem_values.mp hl
    have hsource : MemorySource.lesson l ∈ s.metadataSources c := mem_metadataSources.mpr (.inl ⟨k, l, hk, rfl⟩)
    have hstored : s.lessons.get? l.lessonId = some l := stores_of_mem h hsource
    obtain ⟨m, hm, hid⟩ := itemFromLesson_total h hstored
    have hcandidate : s.metadataCandidate py c (.lesson l) = .ok (some m) := by
      rw [Store.metadataCandidate, if_pos hmatch, hm]
      rfl
    obtain ⟨anchor, -, hanchor⟩ := mem_of_forall₂ (collect_eq_ok.mp hanchors) (found_of_source hfound hsource hcandidate)
    rw [hid] at hanchor
    exact (lesson_anchor hstored).mp ⟨anchor, hanchor⟩
  · rintro ⟨hcontext, hfix⟩
    obtain ⟨found, hfound⟩ := metadataCandidates_total (c := c) h
    obtain ⟨anchors, hanchors⟩ : ∃ anchors, collect (fun m => s.commitAnchor m.memoryId) found = .ok anchors := by
      refine collect_total fun m hm => ?_
      obtain ⟨source, hsource, hcandidate, hid⟩ := source_of_found h hfound hm
      rw [hid]
      refine source_anchor h (stores_of_mem h hsource) ?_
      rintro l rfl
      have hstored : s.lessons.get? l.lessonId = some l := stores_of_mem h hsource
      exact hfix l (Dict.mem_values.mpr ⟨_, hstored⟩) (scope_of_candidate hcandidate)
    exact ⟨_, hcontext, found, hfound, anchors, hanchors, rfl⟩

theorem settles_of_anchors (h : s.candidateCommitAnchors py c = .ok anchors)
    (hcover : ∀ a ∈ anchors, relations.contains a = true) :
    ∃ found, s.metadataCandidates py c = .ok found ∧ s.Settles (some relations) found := by
  simp only [Store.candidateCommitAnchors, bind_eq_ok, exists_unit, pure_eq_ok] at h
  obtain ⟨-, found, hfound, collected, hcollected, rfl⟩ := h
  refine ⟨found, hfound, settles_iff.mpr fun m hm => ?_⟩
  obtain ⟨anchor, hanchor, hm'⟩ := mem_of_forall₂ (collect_eq_ok.mp hcollected) hm
  refine ⟨anchor, hm', ?_⟩
  rintro a rfl
  exact hcover a (mem_sortedStrs.mpr (List.mem_dedup.mpr (List.mem_filterMap.mpr ⟨some a, hanchor, rfl⟩)))

end Anchors

section Sufficiency

variable {anchors : List Str} {relations : Dict Str Bool} {found : List MemoryItem} {k : Nat} {e : Exn}

def Retrieval.withoutAncestry (r : Retrieval) : Retrieval := { r with commitAncestry := none }

theorem bind_error {α β γ : Type} {x : Except Exn α} {f : α → Except Exn β} {g : α → Except Exn γ}
    (h : (x >>= f) = .error e) (hnext : ∀ a, x = .ok a → f a = .error e → g a = .error e) : (x >>= g) = .error e := by
  cases x with
  | error e' =>
    cases h
    rfl
  | ok a => exact hnext a rfl h

theorem applicable_total {o : Option (Dict Str Bool)} (hs : s.Settles o found) :
    ∃ kept, s.applicable found o = .ok kept := ⟨_, applicable_eq_ok.mpr ⟨hs, rfl⟩⟩

-- with every anchor covered the evidence adds no failure
theorem all_error_of_covered (h : s.candidateCommitAnchors py c = .ok anchors)
    (hrelations : validatedCommitAncestry c r.commitAncestry = .ok (some relations))
    (hcover : ∀ a ∈ anchors, relations.contains a = true) (he : s.allCandidateMemories py c r = .error e) :
    s.allCandidateMemories py c r.withoutAncestry = .error e := by
  obtain ⟨found, hfound, hs⟩ := settles_of_anchors h hcover
  obtain ⟨kept, hkept⟩ := applicable_total hs
  refine bind_error he fun _ _ he => bind_error he fun _ _ he => bind_error he fun scores _ he => ?_
  rw [hrelations] at he
  change (s.metadataCandidates py c >>= _) = _ at he
  rw [hfound] at he
  change (s.applicable found (some relations) >>= _) = _ at he
  rw [hkept] at he
  cases he

theorem boundedSelection_full {o : Option (Dict Str Bool)} (hfound : s.metadataCandidates py c = .ok found)
    (hs : s.Settles o found) (hk : k < ((found.filter (s.kept o)).filter (queryRelevant py r)).length) :
    s.boundedSelection py c r k o none = .error (candidateLimitExceeded k) := by
  obtain ⟨items, hitems, rfl⟩ := metadataCandidates_eq_ok.mp hfound
  rw [List.filter_filter] at hk
  have hfull : accumulate (s.candidateStep py c o (queryRelevant py r) (some k)) [] (s.metadataSources c) =
      .error (candidateLimitExceeded k) := by
    rw [accumulate_found hitems]
    refine accumulate_exceeds hs (Nat.zero_le k) ?_
    rw [List.nil_append]
    refine hk.trans_eq (congrArg _ (List.filter_congr fun m _ => ?_))
    exact Bool.and_comm _ _
  rw [Store.boundedSelection, hfull]
  rfl

theorem boundedSelection_error (hfound : s.metadataCandidates py c = .ok found) (hs : s.Settles (some relations) found)
    {scores : Option (Dict Str Number × Nat)} (he : s.boundedSelection py c r k (some relations) scores = .error e) :
    s.boundedSelection py c r.withoutAncestry k none scores = .error e := by
  have hreturns (hlimit : scores = none →
      (selected py r (found.filter (s.kept (some relations))) scores).length ≤ k) : False := by
    rw [boundedSelection_eq_ok.mpr ⟨found, hfound, hs, rfl, hlimit⟩] at he
    cases he
  cases scores with
  | some p => exact (hreturns fun h => absurd h (Option.some_ne_none p)).elim
  | none =>
    have hk : k < ((found.filter (s.kept (some relations))).filter (queryRelevant py r)).length := by
      refine not_le.mp fun hle => hreturns fun _ => ?_
      rw [selected, List.length_insertionSort]
      exact hle
    obtain rfl : e = candidateLimitExceeded k := by
      rw [boundedSelection_full hfound hs hk] at he
      exact (Except.error.inj he).symm
    refine boundedSelection_full hfound (fun m _ => ⟨true, rfl⟩) (hk.trans_le ?_)
    have hall : found.filter (s.kept none) = found := List.filter_eq_self.mpr fun m _ => decide_eq_true rfl
    rw [hall]
    exact (List.filter_sublist.filter _).length_le

theorem bounded_error_of_covered (h : s.candidateCommitAnchors py c = .ok anchors)
    (hrelations : validatedCommitAncestry c r.commitAncestry = .ok (some relations))
    (hcover : ∀ a ∈ anchors, relations.contains a = true) (he : s.candidateMemories py c r k = .error e) :
    s.candidateMemories py c r.withoutAncestry k = .error e := by
  obtain ⟨found, hfound, hs⟩ := settles_of_anchors h hcover
  refine bind_error he fun _ _ he => bind_error he fun _ _ he => bind_error he fun scores _ he => ?_
  rw [hrelations] at he
  have hbounded : s.boundedSelection py c r k (some relations) scores = .error e := by
    cases scores <;> exact he
  have hwithout := boundedSelection_error hfound hs hbounded
  cases scores <;> exact hwithout

end Sufficiency

section Reports

variable {anchors : List Str} {relations : Dict Str Bool} {e : Exn} {changeSet : Option PRChangeSet}
  {changedFields : Option (List Str)} {evidence : Option CommitAncestryEvidence}

theorem prReportCommitAnchors_iff : (∃ anchors, s.prReportCommitAnchors c changeSet = .ok anchors) ↔
    validateMemoryContext c = .ok () ∧ ∀ cs ∈ changeSet, ∃ changes, validatedPrChangeSet c cs = .ok changes := by
  simp only [Store.prReportCommitAnchors, bind_eq_ok, exists_unit]
  cases changeSet with
  | none =>
    constructor
    · rintro ⟨_, hcontext, -⟩
      exact ⟨hcontext, fun cs hcs => absurd hcs (Option.not_mem_none cs)⟩
    · rintro ⟨hcontext, -⟩
      exact ⟨_, hcontext, rfl⟩
  | some cs =>
    simp only [bind_eq_ok, Option.mem_some_iff, forall_eq']
    constructor
    · rintro ⟨_, hcontext, changes, hchanges, -⟩
      exact ⟨hcontext, changes, hchanges⟩
    · rintro ⟨hcontext, changes, hchanges⟩
      exact ⟨_, hcontext, changes, hchanges, rfl⟩

-- the report looks at the records the anchors were collected from
theorem anchor_of_record (h : s.prReportCommitAnchors c changeSet = .ok anchors)
    {fields : List Str × Option (List FieldChange)} (hfields : warningFields c changedFields changeSet = .ok fields)
    {record : RelatedCase} (hrecord : record ∈ s.prRelatedCaseRecords c fields.2) : record.case.commitSha ∈ anchors := by
  have listed {records : List RelatedCase} (hr : record ∈ records) :
      record.case.commitSha ∈ sortedStrs (records.map (fun r => r.case.commitSha)).dedup :=
    mem_sortedStrs.mpr (List.mem_dedup.mpr (List.mem_map_of_mem hr))
  simp only [Store.prReportCommitAnchors, bind_eq_ok, exists_unit] at h
  obtain ⟨-, h⟩ := h
  cases changeSet with
  | none =>
    obtain rfl := pure_eq_ok.mp h
    cases changedFields with
    | none => cases hfields
    | some names =>
      simp only [warningFields, bind_eq_ok, pure_eq_ok] at hfields
      obtain ⟨_, -, rfl⟩ := hfields
      exact listed hrecord
  | some cs =>
    simp only [bind_eq_ok, pure_eq_ok] at h
    obtain ⟨changes, hchanges, rfl⟩ := h
    cases changedFields with
    | some names => cases hfields
    | none =>
      simp only [warningFields, hchanges, bind_eq_ok, pure_eq_ok] at hfields
      obtain ⟨_, hsame, rfl⟩ := hfields
      obtain rfl := Except.ok.inj hsame
      exact listed hrecord

theorem ancestralRecords_total {records : List RelatedCase}
    (hcover : ∀ record ∈ records, relations.contains record.case.commitSha = true) :
    ∃ kept, ancestralRecords records (some relations) = .ok kept := by
  have hrequired : requireCommitRelations (records.map (fun r => some r.case.commitSha)) relations = .ok () := by
    refine requireCommitRelations_eq_ok.mpr fun a ha => ?_
    obtain ⟨record, hrecord, hsame⟩ := List.mem_map.mp ha
    rw [← Option.some.inj hsame]
    exact hcover record hrecord
  rw [ancestralRecords, hrequired]
  exact ⟨_, rfl⟩

theorem report_error_of_covered (h : s.prReportCommitAnchors c changeSet = .ok anchors)
    (hrelations : validatedCommitAncestry c evidence = .ok (some relations))
    (hcover : ∀ a ∈ anchors, relations.contains a = true)
    (he : s.prMemoryReport c changedFields changeSet evidence = .error e) :
    s.prMemoryReport c changedFields changeSet none = .error e := by
  refine bind_error he fun _ _ he => bind_error he fun fields hfields he => ?_
  obtain ⟨kept, hkept⟩ := ancestralRecords_total fun record hrecord =>
    hcover _ (anchor_of_record h hfields hrecord)
  rw [hrelations] at he
  change (ancestralRecords (s.prRelatedCaseRecords c fields.2) (some relations) >>= _) = _ at he
  rw [hkept] at he
  cases he

end Reports

section Claim

def retiredCase : FailureCase := { draftCase with status := .obsolete, regressionPassed := true }

def retiredLesson : Lesson := { sampleLesson with status := .obsolete }

def retiredCalls : List (Env × Operation) :=
  [(sampleEnv, .recordTrace failedTrace), (sampleEnv, .addFailureCase retiredCase),
    (sampleEnv, .addLesson retiredLesson)]

def retiredStore : Store := runStore asciiPython (Store.fresh 0 sampleSession) retiredCalls

end Claim

end TraceBackedMemory
