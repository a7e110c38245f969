import TraceBackedMemory.Migration.OrderFree
import TraceBackedMemory.Migration.Loading
import TraceBackedMemory.Ledger.EventSizes
import TraceBackedMemory.Store.Runs

namespace TraceBackedMemory

open Text Raising OrderBy Json EventContract

namespace Migration

section Clean

def Clean (l : List V3MigrationIssue) : Prop := ∀ i ∈ l, i.severity ≠ .error

theorem clean_append {l k : List V3MigrationIssue} : Clean (l ++ k) ↔ Clean l ∧ Clean k := List.forall_mem_append

theorem clean_flatMap {α : Type} {l : List α} {f : α → List V3MigrationIssue} :
    Clean (l.flatMap f) ↔ ∀ a ∈ l, Clean (f a) := by
  simp only [Clean, List.mem_flatMap, forall_exists_index, and_imp]
  exact ⟨fun h a ha i hi => h i a ha hi, fun h i a ha hi => h a ha i hi⟩

theorem clean_flag_error {p : Prop} [Decidable p] {code : String} {kind id message : Str} :
    Clean (flag p (errorIssue code kind id message)) ↔ ¬p := by
  by_cases h : p <;> simp [Clean, flag, errorIssue, h]

theorem not_clean_error {code : String} {kind id message : Str} : ¬Clean [errorIssue code kind id message] := by
  simp [Clean, errorIssue]

theorem clean_of_ready {m : SnapshotV3MigrationMapping} {store : Store} {s s' : Str} {l : List V3MigrationIssue}
    (h : (planOf m store s s' (orderBy issueOrder l)).ready = true) : Clean l := by
  intro i hi herror
  have hcount : errorCount (orderBy issueOrder l) = 0 := of_decide_eq_true h
  rw [errorCount, List.countP_eq_zero] at hcount
  exact hcount i (mem_orderBy.mpr hi) (by simp [herror])

end Clean

section Traces

variable {m : SnapshotV3MigrationMapping}

structure BoundTrace (m : SnapshotV3MigrationMapping) (t : Trace) (b : TraceIdentityBinding) : Prop where
  binding : b ∈ m.traceBindings
  trace : b.traceId = t.traceId
  repository : ∃ r ∈ m.repositories, r.repositoryId = b.repositoryId ∧ ∀ repo ∈ t.repo, repo ∈ r.legacyAliases
  tenant : ∃ n ∈ m.tenants, n.tenantId = b.tenantId ∧ ∀ tenant ∈ t.tenant, tenant ∈ n.legacyAliases

theorem bound_of_clean (hu : m.Unique) {t : Trace} (h : Clean (planTraceIdentity m t)) :
    ∃ b, m.traceBinding? t.traceId = some b ∧ BoundTrace m t b := by
  cases hbinding : m.traceBinding? t.traceId with
  | none =>
    simp only [planTraceIdentity, hbinding] at h
    exact absurd h not_clean_error
  | some b =>
    simp only [planTraceIdentity, hbinding, clean_append] at h
    obtain ⟨hrepository, htenant⟩ := h
    obtain ⟨hmem, hid⟩ := (keyed_eq_some hu.traceBindings).mp hbinding
    refine ⟨b, rfl, hmem, hid, ?_, ?_⟩
    · cases hr : m.repository? b.repositoryId with
      | none =>
        rw [hr] at hrepository
        exact absurd hrepository not_clean_error
      | some r =>
        obtain ⟨hmem, hid⟩ := (keyed_eq_some hu.repositories).mp hr
        refine ⟨r, hmem, hid, fun repo hrepo => ?_⟩
        simp only [hr, planTraceRepository, Option.mem_def.mp hrepo, traceError, clean_flag_error, not_not] at hrepository
        exact hrepository
    · cases hn : m.tenant? b.tenantId with
      | none =>
        rw [hn] at htenant
        exact absurd htenant not_clean_error
      | some n =>
        obtain ⟨hmem, hid⟩ := (keyed_eq_some hu.tenants).mp hn
        refine ⟨n, hmem, hid, fun tenant hname => ?_⟩
        simp only [hn, planTraceTenant, Option.mem_def.mp hname, traceError, clean_flag_error, not_not] at htenant
        exact htenant

-- an alias belongs to one record, since no two records share one
theorem eq_of_shared_alias {α : Type} {f : α → List Str} {l : List α} (hn : (l.flatMap f).Nodup) {a b : α}
    (ha : a ∈ l) (hb : b ∈ l) {s : Str} (hs : s ∈ f a) (hs' : s ∈ f b) : a = b := by
  induction l with
  | nil => cases ha
  | cons c l ih =>
    rw [List.flatMap_cons, List.nodup_append] at hn
    obtain ⟨-, htail, hdisjoint⟩ := hn
    rcases List.mem_cons.mp ha with rfl | hal
    · rcases List.mem_cons.mp hb with rfl | hbl
      · rfl
      · exact absurd rfl (hdisjoint s hs s (List.mem_flatMap.mpr ⟨b, hbl, hs'⟩))
    · rcases List.mem_cons.mp hb with rfl | hbl
      · exact absurd rfl (hdisjoint s hs' s (List.mem_flatMap.mpr ⟨a, hal, hs⟩))
      · exact ih htail hal hbl

theorem repository_of_repo (hu : m.Unique) {t t' : Trace} {b b' : TraceIdentityBinding} (h : BoundTrace m t b)
    (h' : BoundTrace m t' b') {repo : Str} (hrepo : t.repo = some repo) (hrepo' : t'.repo = some repo) :
    b.repositoryId = b'.repositoryId := by
  obtain ⟨r, hr, hid, halias⟩ := h.repository
  obtain ⟨r', hr', hid', halias'⟩ := h'.repository
  have hsame := eq_of_shared_alias hu.repositoryAliases hr hr' (halias repo hrepo) (halias' repo hrepo')
  rw [← hid, ← hid', hsame]

end Traces

section Memories

-- what a request carries once repositories and tenants have their canonical identities
structure V3Context where
  repositoryId : Str
  tenantId : Str
  attribute? : Str → Option Str

def AuthorizationScope.admits (s : AuthorizationScope) (x : V3Context) : Prop :=
  (∀ i ∈ s.tenantId, i = x.tenantId) ∧ (∀ i ∈ s.repositoryId, i = x.repositoryId) ∧
    ∀ a ∈ s.attributes, x.attribute? a.1 = some a.2

def legacyField (m : SnapshotV3MigrationMapping) (x : V3Context) (f : Str × Str) : Prop :=
  if f.1 = lit "repo" then ∃ r ∈ m.repositories, r.repositoryId = x.repositoryId ∧ f.2 ∈ r.legacyAliases
  else if f.1 = lit "tenant" then ∃ n ∈ m.tenants, n.tenantId = x.tenantId ∧ f.2 ∈ n.legacyAliases
  else x.attribute? f.1 = some f.2

def legacyAdmits (m : SnapshotV3MigrationMapping) (scope : Scope) (x : V3Context) : Prop :=
  ∀ f ∈ scope.entries, legacyField m x f

variable {m : SnapshotV3MigrationMapping}

theorem field_of_clean (hu : m.Unique) {memory : SourceMemory} {scope : AuthorizationScope} {f : Str × Str}
    (h : Clean (planScopeField memory scope (scope.repositoryId.bind m.repository?)
      (scope.tenantId.bind m.tenant?) f)) {x : V3Context} (hx : scope.admits x) : legacyField m x f := by
  obtain ⟨htenant, hrepository, hattributes⟩ := hx
  rw [legacyField]
  by_cases hrepo : f.1 = lit "repo"
  · rw [if_pos hrepo]
    simp only [planScopeField, if_pos hrepo, memoryError, clean_flag_error, not_or, not_forall, not_not] at h
    obtain ⟨-, r, hr, halias⟩ := h
    obtain ⟨i, hi, hfound⟩ := Option.bind_eq_some_iff.mp hr
    obtain ⟨hmem, hid⟩ := (keyed_eq_some hu.repositories).mp hfound
    exact ⟨r, hmem, hid.trans (hrepository i hi), halias⟩
  · by_cases hname : f.1 = lit "tenant"
    · rw [if_neg hrepo, if_pos hname]
      simp only [planScopeField, if_neg hrepo, if_pos hname, memoryError, clean_flag_error, not_forall, not_not] at h
      obtain ⟨n, hn, halias⟩ := h
      obtain ⟨i, hi, hfound⟩ := Option.bind_eq_some_iff.mp hn
      obtain ⟨hmem, hid⟩ := (keyed_eq_some hu.tenants).mp hfound
      exact ⟨n, hmem, hid.trans (htenant i hi), halias⟩
    · rw [if_neg hrepo, if_neg hname]
      simp only [planScopeField, if_neg hrepo, if_neg hname, memoryError, clean_flag_error, ne_eq, not_not] at h
      exact hattributes (f.1, f.2) (Dict.mem_of_lookupIn h)

theorem scope_of_clean (hu : m.Unique) {cases : Dict Str FailureCase} {memory : SourceMemory}
    (h : Clean (planMemoryScope m cases memory)) :
    ∃ b ∈ m.memoryScopes, scopeKey b = (memory.kind, memory.memoryId) ∧
      ∀ x, b.scope.admits x → legacyAdmits m memory.scope x := by
  cases hbinding : m.scopeBinding? memory.kind memory.memoryId with
  | none =>
    simp only [planMemoryScope, hbinding] at h
    exact absurd h not_clean_error
  | some b =>
    simp only [planMemoryScope, hbinding, clean_append, clean_flatMap] at h
    obtain ⟨⟨-, hfields⟩, -⟩ := h
    obtain ⟨hmem, hkey⟩ := (keyed_eq_some hu.memoryScopes).mp hbinding
    exact ⟨b, hmem, hkey, fun x hx f hf => field_of_clean hu (hfields f hf) hx⟩

end Memories

section Evidence

structure BoundEvidence (m : SnapshotV3MigrationMapping) (traces : List Trace)
    (verifier : Option CommitRelationVerifier) (c : FailureCase) (e : RegressionEvidence) : Prop where
  evidence : e ∈ m.regressionEvidence
  case : e.caseId = c.caseId
  passing : e.result = .pass
  source : e.sourceToFix.fromCommitSha = c.commitSha
  fix : c.fixCommitSha = some e.sourceToFix.toCommitSha
  fixed : e.fixToRegression.fromCommitSha = e.sourceToFix.toCommitSha
  evaluated : e.fixToRegression.toCommitSha = e.evaluatedCommitSha
  regression : ∃ t ∈ traces, t.traceId = e.regressionTraceId ∧ traceMatches e t = true
  verified : m.ancestryPolicy.mode = .required → ∃ verify, verifier = some verify ∧
    ∃ b ∈ m.traceBindings, b.traceId = c.sourceTraceId ∧
      ∀ f ∈ e.relations, verify b.repositoryId f.2 = .answered true

variable {m : SnapshotV3MigrationMapping} {traces : Dict Str Trace} {verifier : Option CommitRelationVerifier}

theorem commits_of_clean {c : FailureCase} {e : RegressionEvidence} (h : Clean (planCommits c e)) :
    e.sourceToFix.fromCommitSha = c.commitSha ∧ c.fixCommitSha = some e.sourceToFix.toCommitSha ∧
      e.fixToRegression.fromCommitSha = e.sourceToFix.toCommitSha ∧
      e.fixToRegression.toCommitSha = e.evaluatedCommitSha := by
  cases hfix : c.fixCommitSha with
  | none =>
    simp only [planCommits, hfix] at h
    exact absurd h not_clean_error
  | some fix =>
    simp only [planCommits, hfix, clean_append, caseError, clean_flag_error, not_or, ne_eq, not_not] at h
    obtain ⟨⟨hsource, hto⟩, hfrom, hevaluated⟩ := h
    exact ⟨hsource, by rw [hto], hfrom.trans hto.symm, hevaluated⟩

theorem relations_of_clean {c : FailureCase} {e : RegressionEvidence} {repositoryId : Str}
    {verify : CommitRelationVerifier} (h : Clean (planRelations c e repositoryId (some verify))) :
    ∀ f ∈ e.relations, verify repositoryId f.2 = .answered true := by
  intro f hf
  have hrelation := clean_flatMap.mp h f hf
  cases hanswer : verify repositoryId f.2 with
  | raised =>
    simp only [planRelation, hanswer] at hrelation
    exact absurd hrelation not_clean_error
  | invalid =>
    simp only [planRelation, hanswer] at hrelation
    exact absurd hrelation not_clean_error
  | answered verified =>
    simp only [planRelation, hanswer, caseError, clean_flag_error, Bool.not_eq_false] at hrelation
    rw [hrelation]

theorem identity_of_clean (hu : m.Unique) (htraces : ∀ k t, traces.get? k = some t → t.traceId = k)
    {c : FailureCase} {e : RegressionEvidence} {t : Trace} (h : Clean (planIdentity m traces verifier c e t)) :
    ∃ b ∈ m.traceBindings, b.traceId = c.sourceTraceId ∧ Clean (planRelations c e b.repositoryId verifier) := by
  cases hsource : (traces.get? c.sourceTraceId).bind (fun s => m.traceBinding? s.traceId) with
  | none =>
    simp only [planIdentity, hsource] at h
    exact absurd h not_clean_error
  | some b =>
    cases hregression : m.traceBinding? t.traceId with
    | none =>
      simp only [planIdentity, hsource, hregression] at h
      exact absurd h not_clean_error
    | some b' =>
      simp only [planIdentity, hsource, hregression] at h
      split at h
      · obtain ⟨s, hs, hb⟩ := Option.bind_eq_some_iff.mp hsource
        obtain ⟨hmem, hid⟩ := (keyed_eq_some hu.traceBindings).mp hb
        exact ⟨b, hmem, hid.trans (htraces _ _ hs), h⟩
      · exact absurd h not_clean_error

theorem evidence_of_clean (hu : m.Unique) (htraces : ∀ k t, traces.get? k = some t → t.traceId = k)
    (hancestry : Clean (planAncestry m verifier)) {c : FailureCase}
    (h : Clean (planRegressionEvidence m traces (activeVerifier m verifier) c)) (hc : evidenceRequired c = true) :
    ∃ e, BoundEvidence m traces.values verifier c e := by
  cases hevidence : m.evidence? c.caseId with
  | none =>
    simp only [planRegressionEvidence, hevidence, caseError, clean_flag_error] at h
    exact absurd hc h
  | some e =>
    simp only [planRegressionEvidence, hevidence, clean_append, caseError, clean_flag_error, ne_eq, not_not] at h
    obtain ⟨⟨⟨-, hpass⟩, hcommits⟩, htrace⟩ := h
    obtain ⟨hsource, hfix, hfixed, hevaluated⟩ := commits_of_clean hcommits
    obtain ⟨hmem, hid⟩ := (keyed_eq_some hu.cases).mp hevidence
    cases hregression : traces.get? e.regressionTraceId with
    | none =>
      simp only [planRegressionTrace, hregression] at htrace
      exact absurd htrace not_clean_error
    | some t =>
      simp only [planRegressionTrace, hregression, clean_append, caseError, clean_flag_error,
        Bool.not_eq_false] at htrace
      obtain ⟨hmatches, hidentity⟩ := htrace
      obtain ⟨b, hb, hsourceId, hrelations⟩ := identity_of_clean hu htraces hidentity
      refine ⟨e, hmem, hid, hpass, hsource, hfix, hfixed, hevaluated,
        ⟨t, Dict.mem_values.mpr ⟨_, hregression⟩, htraces _ _ hregression, hmatches⟩, fun hmode => ?_⟩
      cases verifier with
      | none =>
        simp only [planAncestry, hmode, clean_flag_error] at hancestry
        exact absurd rfl hancestry
      | some verify =>
        simp only [activeVerifier, hmode] at hrelations
        exact ⟨verify, rfl, b, hb, hsourceId, relations_of_clean hrelations⟩

end Evidence

section Planning

variable (py : Python) (env : Env) (token : Nat) (session : SessionId) (hash : TextHash) (codec : FloatCodec)

def snapshotMemories (data : Snapshot) : List SourceMemory :=
  data.lessons.map .lesson ++ data.projectPolicies.map .projectPolicy

theorem ready_plan_sound {source : SnapshotSource} {m : MigrationMapping} {verifier : Option CommitRelationVerifier}
    {p : SnapshotV3MigrationPlan}
    (h : planSnapshotV3Migration py env token session hash codec source m verifier = .ok p) (hready : p.ready = true) :
    (∀ t ∈ source.snapshot.traces, ∃ b, BoundTrace m.1 t b) ∧
      (∀ t ∈ source.snapshot.traces, ∀ t' ∈ source.snapshot.traces, ∀ b b', BoundTrace m.1 t b → BoundTrace m.1 t' b' →
        ∀ repo, t.repo = some repo → t'.repo = some repo → b.repositoryId = b'.repositoryId) ∧
      (∀ memory ∈ snapshotMemories source.snapshot, ∃ b ∈ m.1.memoryScopes,
        scopeKey b = (memory.kind, memory.memoryId) ∧ ∀ x, b.scope.admits x → legacyAdmits m.1 memory.scope x) ∧
      ∀ c ∈ source.snapshot.failureCases, c.status = .verified ∨ c.regressionPassed = true →
        ∃ e, BoundEvidence m.1 source.snapshot.traces verifier c e := by
  simp only [planSnapshotV3Migration, bind_eq_ok, exists_unit, pure_eq_ok] at h
  obtain ⟨store, hload, -, sourceSha, -, mappingSha, -, -, rfl⟩ := h
  have hclean := clean_of_ready hready
  have hu := unique_of_check m.2.2
  have hloaded := loadSource_loaded hload
  have hcontents := hloaded.contents
  simp only [contents, Contents.mk.injEq] at hcontents
  obtain ⟨htraces, hcases, hlessons, hpolicies, -⟩ := hcontents
  simp only [planIssues, clean_append, clean_flatMap] at hclean
  obtain ⟨⟨⟨⟨⟨⟨⟨⟨hancestry, htrace⟩, -⟩, hmemory⟩, -⟩, hevidence⟩, -⟩, -⟩, -⟩ := hclean
  refine ⟨fun t ht => ?_, fun t ht t' ht' b b' hb hb' repo => repository_of_repo hu hb hb', fun memory hm => ?_,
    fun c hc hrequired => ?_⟩
  · obtain ⟨b, -, hb⟩ := bound_of_clean hu (htrace t (htraces ▸ ht))
    exact ⟨b, hb⟩
  · apply scope_of_clean hu (hmemory memory _)
    rw [sourceMemories, hlessons, hpolicies]
    exact hm
  · rw [← htraces]
    refine evidence_of_clean hu (fun k t hk => (hloaded.sound.records.traces_at k t hk).1) hancestry
      (hevidence c (hcases ▸ hc)) ?_
    rcases hrequired with hstatus | hpassed
    · simp [evidenceRequired, hstatus]
    · simp [evidenceRequired, hpassed]

end Planning

section Samples

def regressionTrace : Trace where
  traceId := lit "trace_2"
  runId := lit "run_2"
  commitSha := lit "c0ffee2"
  repo := some (lit "core")
  evalSuite := some (lit "locks")
  evalResult := .pass

def verifiedCase : FailureCase where
  caseId := lit "case_1"
  sourceTraceId := lit "trace_1"
  commitSha := lit "c0ffee1"
  failureType := lit "timeout"
  symptom := lit "worker hangs"
  rootCause := some (lit "lock order")
  fix := some (lit "acquire locks in order")
  fixCommitSha := some (lit "c0ffee2")
  regressionPassed := true
  reviewedBy := some (lit "reviewer")
  reviewedAt := some (lit "2024-05-01T12:00:00Z")
  status := .verified

def sampleSnapshot : Snapshot where
  traces := [failedTrace, regressionTrace]
  failureCases := [verifiedCase]
  lessons := [sampleLesson]

def member (name text : String) : Str × Json := (lit name, .str (lit text))

def sampleDocument : Json :=
  .obj [(lit "snapshot_version", .num (.int 2)),
    (lit "traces", .arr [
      .obj [member "trace_id" "trace_1", member "run_id" "run_1", member "commit_sha" "c0ffee1",
        member "repo" "core", member "eval_result" "fail"],
      .obj [member "trace_id" "trace_2", member "run_id" "run_2", member "commit_sha" "c0ffee2",
        member "repo" "core", member "eval_suite" "locks", member "eval_result" "pass"]]),
    (lit "failure_cases", .arr [
      .obj [member "case_id" "case_1", member "source_trace_id" "trace_1", member "commit_sha" "c0ffee1",
        member "failure_type" "timeout", member "symptom" "worker hangs", member "root_cause" "lock order",
        member "fix" "acquire locks in order", member "fix_commit_sha" "c0ffee2",
        (lit "regression_passed", .bool true), member "reviewed_by" "reviewer",
        member "reviewed_at" "2024-05-01T12:00:00Z", member "status" "verified"]]),
    (lit "lessons", .arr [
      .obj [member "lesson_id" "lesson_1", member "source_case_id" "case_1",
        member "lesson_text" "Acquire locks in order.", member "memory_type" "procedural",
        (lit "scope", .obj [member "repo" "core"]), (lit "confidence", .num (.int 1))]]),
    (lit "project_policies", .arr []), (lit "usage_logs", .arr [])]

def sampleSource : SnapshotSource where
  document := ⟨sampleDocument, by decide⟩
  snapshot := sampleSnapshot
  current := rfl
  recorded := by decide

def sampleRelation (source target : String) : CommitRelationEvidence :=
  ⟨lit source, lit target, .ancestor, lit "verifier_1", lit "2024-05-01T12:00:00Z"⟩

def sampleEvidence : RegressionEvidence :=
  ⟨lit "evidence_1", lit "case_1", lit "trace_2", lit "run_2", lit "evaluator_1", lit "1.0", lit "locks", lit "lock-1",
    lit "c0ffee2", .pass, lit "2024-05-01T12:00:00Z", sampleRelation "c0ffee1" "c0ffee2",
    sampleRelation "c0ffee2" "c0ffee2", []⟩

def sampleMapping : SnapshotV3MigrationMapping :=
  ⟨[⟨lit "repo_1", .localGit, lit "core", sampleDigest 'a', lit "core", [lit "core"]⟩],
    [⟨lit "tenant_1", lit "tenant", []⟩],
    [⟨lit "trace_1", lit "repo_1", lit "tenant_1"⟩, ⟨lit "trace_2", lit "repo_1", lit "tenant_1"⟩],
    [⟨.lesson, lit "lesson_1", ⟨.repository, some (lit "tenant_1"), some (lit "repo_1"), []⟩⟩],
    [sampleEvidence], [], ⟨.required, none⟩⟩

theorem sampleMapping_valid : sampleMapping.checkEntries = .ok () ∧ sampleMapping.check = .ok () := by
  constructor <;> decide

def ancestryVerifier : CommitRelationVerifier := fun _ e => .answered (decide (e.toCommitSha = lit "c0ffee2"))

theorem ready_plan_sound_sample :
    ∃ p, planSnapshotV3Migration asciiPython sampleEnv 0 sampleSession sampleTexts sampleFloats sampleSource
        ⟨sampleMapping, sampleMapping_valid⟩ (some ancestryVerifier) = .ok p ∧ p.ready = true ∧
      (∀ t ∈ sampleSnapshot.traces, ∃ b, BoundTrace sampleMapping t b) ∧
      ∃ e, BoundEvidence sampleMapping sampleSnapshot.traces (some ancestryVerifier) verifiedCase e := by
  have hready : ((planSnapshotV3Migration asciiPython sampleEnv 0 sampleSession sampleTexts sampleFloats sampleSource
      ⟨sampleMapping, sampleMapping_valid⟩ (some ancestryVerifier)).toOption.map SnapshotV3MigrationPlan.ready) =
        some true := by
    decide +kernel
  cases hplan : planSnapshotV3Migration asciiPython sampleEnv 0 sampleSession sampleTexts sampleFloats sampleSource
      ⟨sampleMapping, sampleMapping_valid⟩ (some ancestryVerifier) with
  | error e =>
    rw [hplan] at hready
    cases hready
  | ok p =>
    rw [hplan] at hready
    have hp : p.ready = true := Option.some.inj hready
    have hsound := ready_plan_sound asciiPython sampleEnv 0 sampleSession sampleTexts sampleFloats hplan hp
    exact ⟨p, rfl, hp, hsound.1, hsound.2.2.2 verifiedCase (List.mem_singleton.mpr rfl) (.inr rfl)⟩

end Samples

end Migration

end TraceBackedMemory
