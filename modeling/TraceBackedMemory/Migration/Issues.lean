import TraceBackedMemory.Migration.Loading
import TraceBackedMemory.Migration.OrderFree

namespace TraceBackedMemory

open Text Raising OrderBy Json EventContract

namespace Migration

section Texts

def sound (limit : Nat) (s : Str) : Bool := !isBlank s && decide (s.length ≤ limit) && utf8 s

theorem sound_lit {limit : Nat} {l : List Char} (h : sound limit (l.map cp) = true) :
    sound limit (lit (String.ofList l)) = true := by
  rw [lit_ofList]
  exact h

theorem required_eq_ok {limit : Nat} {s name : Str} : required limit s name = .ok () ↔ sound limit s = true := by
  simp only [required, unicode, bind_eq_ok, exists_unit, raiseIf_eq_ok, sound, Bool.and_eq_true, Bool.not_eq_true',
    decide_eq_true_eq, not_or, not_lt, Bool.not_eq_true, Bool.not_eq_false]

theorem sound_append {a s : Str} {n k limit : Nat} (ha : sound n a = true) (hs : s.length ≤ k ∧ utf8 s = true)
    (hlimit : n + k ≤ limit) : sound limit (a ++ s) = true := by
  simp only [sound, Bool.and_eq_true, Bool.not_eq_true', decide_eq_true_eq] at ha ⊢
  obtain ⟨⟨hblank, hlength⟩, hutf⟩ := ha
  refine ⟨⟨?_, ?_⟩, utf8_append.mpr ⟨hutf, hs.2⟩⟩
  · rw [Bool.eq_false_iff, Ne, isBlank_iff]
    intro hall
    rw [Bool.eq_false_iff, Ne, isBlank_iff] at hblank
    exact hblank fun c hc => hall c (List.mem_append_left s hc)
  · rw [List.length_append]
    omega

theorem text_of_sound {limit : Nat} {s : Str} (h : sound limit s = true) : s.length ≤ limit ∧ utf8 s = true := by
  simp only [sound, Bool.and_eq_true, decide_eq_true_eq] at h
  exact ⟨h.1.2, h.2⟩

def Checked (l : List V3MigrationIssue) : Prop := ∀ i ∈ l, i.check = .ok ()

theorem checked_append {l k : List V3MigrationIssue} : Checked (l ++ k) ↔ Checked l ∧ Checked k :=
  List.forall_mem_append

theorem checked_flag {p : Prop} [Decidable p] {i : V3MigrationIssue} (h : i.check = .ok ()) : Checked (flag p i) := by
  intro j hj
  rw [flag] at hj
  split at hj
  · rwa [List.mem_singleton.mp hj]
  · cases hj

theorem checked_singleton {i : V3MigrationIssue} (h : i.check = .ok ()) : Checked [i] := by
  intro j hj
  rwa [List.mem_singleton.mp hj]

theorem checked_flatMap {α : Type} {f : α → List V3MigrationIssue} {l : List α} (h : ∀ a ∈ l, Checked (f a)) :
    Checked (l.flatMap f) := by
  intro i hi
  obtain ⟨a, ha, hi⟩ := List.mem_flatMap.mp hi
  exact h a ha i hi

theorem check_issue {code kind id message : Str} {severity : MigrationIssueSeverity}
    (hcode : sound memoryIdMaxChars code = true) (hkind : sound memoryIdMaxChars kind = true)
    (hid : sound memoryIdMaxChars id = true) (hmessage : sound memoryDecisionReasonMaxChars message = true) :
    (⟨code, severity, kind, id, message⟩ : V3MigrationIssue).check = .ok () := by
  simp only [V3MigrationIssue.check, requiredIdentifier, requiredReason, bind_eq_ok, exists_unit, required_eq_ok]
  exact ⟨hcode, hkind, hid, hmessage⟩

end Texts

section Sections

variable {m : SnapshotV3MigrationMapping}

-- every identifier of a checked mapping that an issue can name
structure Named (m : SnapshotV3MigrationMapping) : Prop where
  bindings : ∀ b ∈ m.traceBindings, sound memoryIdMaxChars b.traceId = true ∧
    sound memoryIdMaxChars b.repositoryId = true ∧ sound memoryIdMaxChars b.tenantId = true
  scopes : ∀ b ∈ m.memoryScopes, sound memoryIdMaxChars b.memoryId = true ∧
    (∀ i ∈ b.scope.repositoryId, sound memoryIdMaxChars i = true) ∧
    ∀ i ∈ b.scope.tenantId, sound memoryIdMaxChars i = true
  cases : ∀ e ∈ m.regressionEvidence, sound memoryIdMaxChars e.caseId = true
  approvals : ∀ a ∈ m.globalPolicyApprovals, sound memoryIdMaxChars a.policyId = true

theorem sound_of_optional {value : Option Str} {name : Str} (h : optionalIdentifier value name = .ok ()) :
    ∀ i ∈ value, sound memoryIdMaxChars i = true := by
  rintro i rfl
  exact required_eq_ok.mp h

theorem named_of_checkEntries (h : m.checkEntries = .ok ()) : Named m := by
  simp only [SnapshotV3MigrationMapping.checkEntries, bind_eq_ok, exists_unit, checkEach_eq_ok] at h
  obtain ⟨-, -, htraces, hscopes, hevidence, happrovals, -⟩ := h
  refine ⟨fun b hb => ?_, fun b hb => ?_, fun e he => ?_, fun a ha => ?_⟩
  · have hcheck := htraces b hb
    simp only [TraceIdentityBinding.check, requiredIdentifier, bind_eq_ok, exists_unit, required_eq_ok] at hcheck
    exact hcheck
  · have hcheck := hscopes b hb
    simp only [MemoryScopeBinding.check, AuthorizationScope.check, requiredIdentifier, bind_eq_ok, exists_unit,
      required_eq_ok] at hcheck
    exact ⟨hcheck.1, sound_of_optional hcheck.2.2.1, sound_of_optional hcheck.2.1⟩
  · have hcheck := hevidence e he
    simp only [RegressionEvidence.check, bind_eq_ok, exists_unit, checkEach_eq_ok] at hcheck
    have hcase := hcheck.2.2.1 (e.caseId, lit "case_id") (.tail _ (.head _))
    exact required_eq_ok.mp hcase
  · have hcheck := happrovals a ha
    simp only [GlobalPolicyApproval.check, requiredIdentifier, bind_eq_ok, exists_unit, required_eq_ok] at hcheck
    exact hcheck.1

theorem check_trace {t : Trace} (ht : sound memoryIdMaxChars t.traceId = true) {code : String} {message : Str}
    {severity : MigrationIssueSeverity} (hcode : sound memoryIdMaxChars (lit code) = true)
    (hmessage : sound memoryDecisionReasonMaxChars message = true) :
    (⟨lit code, severity, lit "trace", t.traceId, message⟩ : V3MigrationIssue).check = .ok () :=
  check_issue hcode (sound_lit rfl) ht hmessage

theorem checked_planTraceIdentity (hm : Named m) {t : Trace} (ht : sound memoryIdMaxChars t.traceId = true) :
    Checked (planTraceIdentity m t) := by
  rw [planTraceIdentity]
  split
  · exact checked_singleton (check_trace ht (sound_lit rfl) (sound_lit rfl))
  · next b hb =>
    obtain ⟨-, hrepository, htenant⟩ := hm.bindings b (List.mem_of_find?_eq_some hb)
    refine checked_append.mpr ⟨?_, ?_⟩
    · rw [planTraceRepository.eq_def]
      split
      · exact checked_singleton (check_trace ht (sound_lit rfl)
          (sound_append (n := 128) (sound_lit rfl) (text_of_sound hrepository) (by decide)))
      · split
        · exact checked_singleton (check_trace ht (sound_lit rfl) (sound_lit rfl))
        · exact checked_flag (check_trace ht (sound_lit rfl) (sound_lit rfl))
    · rw [planTraceTenant.eq_def]
      split
      · exact checked_singleton (check_trace ht (sound_lit rfl)
          (sound_append (n := 128) (sound_lit rfl) (text_of_sound htenant) (by decide)))
      · split
        · exact checked_singleton (check_trace ht (sound_lit rfl) (sound_lit rfl))
        · exact checked_flag (check_trace ht (sound_lit rfl) (sound_lit rfl))

theorem MemoryScopeKind.sound_text (k : MemoryScopeKind) : sound memoryIdMaxChars k.text = true := by
  cases k <;> exact sound_lit rfl

theorem check_memory {memory : SourceMemory} (hid : sound memoryIdMaxChars memory.memoryId = true) {code : String}
    {message : Str} (hcode : sound memoryIdMaxChars (lit code) = true)
    (hmessage : sound memoryDecisionReasonMaxChars message = true) :
    (memoryError code memory message).check = .ok () :=
  check_issue hcode memory.kind.sound_text hid hmessage

theorem checked_planScopeField {memory : SourceMemory} (hid : sound memoryIdMaxChars memory.memoryId = true)
    {scope : AuthorizationScope} {r : Option CanonicalRepository} {n : Option TenantIdentity} {f : Str × Str}
    (hf : f.1 ∈ scopeFields) : Checked (planScopeField memory scope r n f) := by
  have hkeys : scopeFields.all (sound memoryIdMaxChars) = true := by
    simp only [scopeFields, List.all_cons, List.all_nil, lit_ofList]
    rfl
  have hkey := List.all_eq_true.mp hkeys f.1 hf
  have hmessage : sound memoryDecisionReasonMaxChars
      (lit "legacy applicability field is not preserved: " ++ f.1) = true :=
    sound_append (n := 128) (sound_lit rfl) (text_of_sound hkey) (by decide)
  rw [planScopeField]
  split
  · exact checked_flag (check_memory hid (sound_lit rfl) (sound_lit rfl))
  · split
    · exact checked_flag (check_memory hid (sound_lit rfl) (sound_lit rfl))
    · exact checked_flag (check_memory hid (sound_lit rfl) hmessage)

theorem text_getD {o : Option Str} (h : ∀ i ∈ o, sound memoryIdMaxChars i = true) :
    (o.getD []).length ≤ memoryIdMaxChars ∧ utf8 (o.getD []) = true := by
  cases o with
  | none => exact ⟨Nat.zero_le _, rfl⟩
  | some i => exact text_of_sound (h i rfl)

theorem checked_planScopeTargets {memory : SourceMemory} (hid : sound memoryIdMaxChars memory.memoryId = true)
    {scope : AuthorizationScope} (hrepository : ∀ i ∈ scope.repositoryId, sound memoryIdMaxChars i = true)
    (htenant : ∀ i ∈ scope.tenantId, sound memoryIdMaxChars i = true) :
    Checked (planScopeTargets m memory scope) := by
  rw [planScopeTargets]
  refine checked_append.mpr ⟨checked_append.mpr ⟨checked_append.mpr ⟨?_, ?_⟩, ?_⟩, ?_⟩
  · exact checked_flag (check_memory hid (sound_lit rfl)
      (sound_append (n := 128) (sound_lit rfl) (text_getD hrepository) (by decide)))
  · exact checked_flag (check_memory hid (sound_lit rfl)
      (sound_append (n := 128) (sound_lit rfl) (text_getD htenant) (by decide)))
  · exact checked_flag (check_memory hid (sound_lit rfl) (sound_lit rfl))
  · exact checked_flag (check_memory hid (sound_lit rfl) (sound_lit rfl))

theorem checked_planLessonSource {memory : SourceMemory} (hid : sound memoryIdMaxChars memory.memoryId = true)
    {cases : Dict Str FailureCase} {scope : AuthorizationScope} {sourceCaseId : Str} :
    Checked (planLessonSource m cases memory scope sourceCaseId) := by
  rw [planLessonSource]
  split
  · exact List.forall_mem_nil _
  · exact checked_append.mpr ⟨checked_flag (check_memory hid (sound_lit rfl) (sound_lit rfl)), checked_flag (check_memory hid (sound_lit rfl) (sound_lit rfl))⟩

theorem checked_planMemoryScope (hm : Named m) {cases : Dict Str FailureCase} {memory : SourceMemory}
    (hid : sound memoryIdMaxChars memory.memoryId = true)
    (hfields : ∀ f ∈ memory.scope.entries, f.1 ∈ scopeFields) : Checked (planMemoryScope m cases memory) := by
  rw [planMemoryScope]
  split
  · exact checked_singleton (check_memory hid (sound_lit rfl) (sound_lit rfl))
  · next b hb =>
    obtain ⟨-, hrepository, htenant⟩ := hm.scopes b (List.mem_of_find?_eq_some hb)
    refine checked_append.mpr ⟨checked_append.mpr ⟨?_, ?_⟩, ?_⟩
    · exact checked_planScopeTargets hid hrepository htenant
    · exact checked_flatMap fun f hf => checked_planScopeField hid (hfields f hf)
    · cases memory with
      | lesson l => exact checked_planLessonSource hid
      | projectPolicy p => exact List.forall_mem_nil _

theorem check_case {c : FailureCase} (hid : sound memoryIdMaxChars c.caseId = true) {code : String} {message : Str}
    (hcode : sound memoryIdMaxChars (lit code) = true) (hmessage : sound memoryDecisionReasonMaxChars message = true) :
    (caseError code c message).check = .ok () :=
  check_issue hcode (sound_lit rfl) hid hmessage

theorem checked_planCommits {c : FailureCase} (hid : sound memoryIdMaxChars c.caseId = true)
    {e : RegressionEvidence} : Checked (planCommits c e) := by
  rw [planCommits]
  split
  · exact checked_singleton (check_case hid (sound_lit rfl) (sound_lit rfl))
  · exact checked_append.mpr ⟨checked_flag (check_case hid (sound_lit rfl) (sound_lit rfl)), checked_flag (check_case hid (sound_lit rfl) (sound_lit rfl))⟩

theorem checked_planRelations {c : FailureCase} (hid : sound memoryIdMaxChars c.caseId = true)
    {e : RegressionEvidence} {repositoryId : Str} {verifier : Option CommitRelationVerifier} :
    Checked (planRelations c e repositoryId verifier) := by
  cases verifier with
  | none => exact List.forall_mem_nil _
  | some verify =>
    refine checked_flatMap fun f hf => ?_
    simp only [RegressionEvidence.relations, List.mem_cons, List.not_mem_nil, or_false] at hf
    have hname : sound memoryIdMaxChars f.1 = true := by
      rcases hf with rfl | rfl
      · exact sound_lit rfl
      · exact sound_lit rfl
    have htext := text_of_sound hname
    rw [planRelation]
    split
    · exact checked_singleton (check_case hid (sound_lit rfl)
        (sound_append (n := 128) (sound_lit rfl) htext (by decide)))
    · exact checked_singleton (check_case hid (sound_lit rfl)
        (sound_append (n := 128) (sound_lit rfl) htext (by decide)))
    · exact checked_flag (check_case hid (sound_lit rfl)
        (sound_append (n := 128) (sound_lit rfl) htext (by decide)))

theorem checked_planIdentity {c : FailureCase} (hid : sound memoryIdMaxChars c.caseId = true)
    {traces : Dict Str Trace} {verifier : Option CommitRelationVerifier} {e : RegressionEvidence} {t : Trace} :
    Checked (planIdentity m traces verifier c e t) := by
  rw [planIdentity]
  split
  · split
    · exact checked_planRelations hid
    · exact checked_singleton (check_case hid (sound_lit rfl) (sound_lit rfl))
  · exact checked_singleton (check_case hid (sound_lit rfl) (sound_lit rfl))

theorem checked_planRegressionEvidence {c : FailureCase} (hid : sound memoryIdMaxChars c.caseId = true)
    {traces : Dict Str Trace} {verifier : Option CommitRelationVerifier} :
    Checked (planRegressionEvidence m traces verifier c) := by
  rw [planRegressionEvidence]
  split
  · exact checked_flag (check_case hid (sound_lit rfl) (sound_lit rfl))
  · refine checked_append.mpr ⟨checked_append.mpr ⟨checked_append.mpr ⟨?_, ?_⟩, checked_planCommits hid⟩, ?_⟩
    · exact checked_flag (check_issue (sound_lit rfl) (sound_lit rfl) hid (sound_lit rfl))
    · exact checked_flag (check_case hid (sound_lit rfl) (sound_lit rfl))
    · rw [planRegressionTrace]
      split
      · exact checked_singleton (check_case hid (sound_lit rfl) (sound_lit rfl))
      · exact checked_append.mpr ⟨checked_flag (check_case hid (sound_lit rfl) (sound_lit rfl)), checked_planIdentity hid⟩

end Sections

section Documents

theorem utf8_of_strings {v : Json} {depth : Nat} (h : freezable depth v = true) : ∀ s ∈ strings v, utf8 s = true := by
  induction v using inductOn generalizing depth with
  | null | bool _ | num _ => exact List.forall_mem_nil _
  | str s =>
    rw [freezable, Bool.and_eq_true] at h
    intro t ht
    rw [List.mem_singleton.mp ht]
    exact h.2
  | arr items ih =>
    rw [freezable, Bool.and_eq_true] at h
    obtain ⟨-, h⟩ := h
    rw [strings]
    generalize depth + 1 = d at h
    induction items with
    | nil => exact List.forall_mem_nil _
    | cons v items ihItems =>
      rw [freezableItems, Bool.and_eq_true] at h
      rw [itemStrings]
      exact List.forall_mem_append.mpr ⟨ih v List.mem_cons_self h.1,
        ihItems (fun w hw => ih w (List.mem_cons_of_mem _ hw)) h.2⟩
  | obj fields ih =>
    rw [freezable, Bool.and_eq_true] at h
    obtain ⟨-, h⟩ := h
    rw [strings]
    generalize depth + 1 = d at h
    induction fields with
    | nil => exact List.forall_mem_nil _
    | cons field fields ihFields =>
      rw [freezableFields, Bool.and_eq_true, Bool.and_eq_true] at h
      rw [fieldStrings]
      exact List.forall_mem_append.mpr ⟨ih field List.mem_cons_self h.1.2,
        ihFields (fun w hw => ih w (List.mem_cons_of_mem _ hw)) h.2⟩

variable {py : Python} {source : SnapshotSource} {store : Store}

theorem sound_identifier {value name : Str} {messagePrefix : Str} (hutf : utf8 value = true)
    (h : validateRequiredString value name messagePrefix (some memoryIdMaxChars) = .ok ()) :
    sound memoryIdMaxChars value = true := by
  simp only [validateRequiredString, bind_eq_ok, exists_unit, raiseIf_eq_ok] at h
  obtain ⟨hblank, hlong⟩ := h
  have hnonblank : isBlank value = false := Bool.eq_false_iff.mpr hblank
  have hlength : value.length ≤ memoryIdMaxChars := by
    simp only [tooLong, decide_eq_true_eq, not_lt] at hlong
    exact hlong
  simp only [sound, hnonblank, decide_eq_true hlength, hutf, Bool.not_false, Bool.and_self]

-- the identifiers that the loaded records carry into the issues
structure Identified (store : Store) : Prop where
  traces : ∀ t ∈ store.traces.values, sound memoryIdMaxChars t.traceId = true
  cases : ∀ c ∈ store.failureCases.values, sound memoryIdMaxChars c.caseId = true
  memories : ∀ memory ∈ sourceMemories store, sound memoryIdMaxChars memory.memoryId = true ∧
    ∀ f ∈ memory.scope.entries, f.1 ∈ scopeFields
  logs : ∀ log ∈ store.usageLogs, sound memoryIdMaxChars log.decisionId = true

theorem identified_of_loaded (h : Loaded py source store) : Identified store := by
  have hutf : ∀ i ∈ recordIds source.snapshot, utf8 i = true := fun i hi =>
    utf8_of_strings h.frozen i (source.recorded i hi)
  have hcontents := h.contents
  simp only [contents, Contents.mk.injEq] at hcontents
  obtain ⟨htraces, hcases, hlessons, hpolicies, hlogs⟩ := hcontents
  simp only [recordIds, List.forall_mem_append, List.forall_mem_map] at hutf
  obtain ⟨⟨⟨⟨hutfTraces, hutfCases⟩, hutfLessons⟩, hutfPolicies⟩, hutfLogs⟩ := hutf
  refine ⟨fun t ht => ?_, fun c hc => ?_, fun memory hm => ?_, fun log hlog => ?_⟩
  · obtain ⟨k, hk⟩ := Dict.mem_values.mp ht
    have hvalid := (h.sound.records.traces_at k t hk).2
    simp only [validateTrace, bind_eq_ok, exists_unit, checkEach_eq_ok] at hvalid
    exact sound_identifier (hutfTraces t (htraces ▸ ht)) (hvalid.1 (lit "trace_id", t.traceId) (.head _))
  · obtain ⟨k, hk⟩ := Dict.mem_values.mp hc
    have hvalid := (h.sound.records.cases_at k c hk).valid
    simp only [validateFailureCase, bind_eq_ok, exists_unit, checkEach_eq_ok] at hvalid
    exact sound_identifier (hutfCases c (hcases ▸ hc)) (hvalid.1 (lit "case_id", c.caseId) (.head _))
  · rw [sourceMemories, List.mem_append, List.mem_map, List.mem_map] at hm
    rcases hm with ⟨l, hl, rfl⟩ | ⟨p, hp, rfl⟩
    · obtain ⟨k, hk⟩ := Dict.mem_values.mp hl
      have hvalid := (h.sound.records.lessons_at k l hk).valid
      simp only [validateStoredLesson, validateLessonRecord, validateLessonContract, validateScopeField, bind_eq_ok,
        exists_unit, checkEach_eq_ok, raiseIf_eq_ok, not_not] at hvalid
      exact ⟨sound_identifier (hutfLessons l (hlessons ▸ hl)) (hvalid.1.1 (lit "lesson_id", l.lessonId) (.head _)),
        fun f hf => (hvalid.2.2.1 f hf).1⟩
    · obtain ⟨k, hk⟩ := Dict.mem_values.mp hp
      have hvalid := (h.sound.records.policies_at k p hk).2
      simp only [validateStoredPolicy, validateProjectPolicy, validateLessonContract, validateScopeField, bind_eq_ok,
        exists_unit, checkEach_eq_ok, raiseIf_eq_ok, not_not] at hvalid
      exact ⟨sound_identifier (hutfPolicies p (hpolicies ▸ hp)) hvalid.1.1, fun f hf => (hvalid.2.2.1 f hf).1⟩
  · have hvalid := (h.sound.logs.valid log hlog).1
    simp only [validateUsageLog, bind_eq_ok, exists_unit, checkEach_eq_ok] at hvalid
    rw [hlogs, List.mem_map] at hlog
    obtain ⟨r, hr, rfl⟩ := hlog
    exact sound_identifier (hutfLogs r hr) (hvalid.1 (lit "decision_id", r.asLog.decisionId) (.head _))

end Documents

end Migration

end TraceBackedMemory
