import TraceBackedMemory.Migration.RoundTrip

namespace TraceBackedMemory

open Text Raising OrderBy Json

namespace Migration

section Registries

theorem utf8_of_sorted {limit : Nat} {l : List Str} {name : Str} (h : ∀ v ∈ l, required limit v name = .ok ()) :
    ∀ v ∈ sortedStrings l, utf8 v = true :=
  fun v hv => utf8_of_required (h v (mem_orderBy.mp hv))

theorem length_sortedStrings (l : List Str) : (sortedStrings l).length = l.length := length_orderBy id l

theorem RepositoryProvider.text_injective {p q : RepositoryProvider} (h : p.text = q.text) : p = q := by
  revert h
  cases p <;> cases q <;> decide

theorem RepositoryProvider.mem_all (p : RepositoryProvider) : p ∈ repositoryProviders := by
  cases p <;> decide

theorem RepositoryProvider.utf8_text (p : RepositoryProvider) : utf8 p.text = true := by
  cases p <;> rfl

theorem CanonicalRepository.names (r : CanonicalRepository) : Names r.entries repositoryNames := names_of_good (by decide) rfl

theorem parseRepository_entries {r : CanonicalRepository} (h : r.check = .ok ()) :
    parseRepository (.obj r.entries) = .ok r.canonical := by
  have hparts := h
  simp only [CanonicalRepository.check, bind_eq_ok, exists_unit, stringTuple_eq_ok] at hparts
  obtain ⟨hid, hprovided, hlocator, hdisplay, hcount, haliases, -⟩ := hparts
  have hn := r.names
  have hk := hn.fields_nodup
  have hlength : (sortedStrings r.legacyAliases).length ≤ maxRegistryItems := by rwa [length_sortedStrings]
  have hprovider := @named_text RepositoryProvider repositoryProviders RepositoryProvider.text r.provider
    r.provider.mem_all (fun q _ hq => RepositoryProvider.text_injective hq)
  have hcheck := CanonicalRepository.check_canonical.mpr h
  simp only [CanonicalRepository.canonical] at hcheck
  simp only [parseRepository, object_names hn,
    stringAt_get hk 0 "repository_id" (utf8_of_required hid) rfl,
    stringAt_get hk 1 "provider" r.provider.utf8_text rfl,
    stringAt_get hk 2 "provider_repository_id" (utf8_of_required hprovided) rfl,
    stringAt_get hk 3 "canonical_locator_hash" (utf8_of_digest hlocator) rfl,
    stringAt_get hk 4 "display_name" (utf8_of_required hdisplay) rfl,
    stringsAt_get hk 5 "legacy_aliases" hlength (utf8_of_sorted haliases) rfl,
    hid, hprovider, bind, Except.bind, hcheck]
  rfl

theorem TenantIdentity.names (t : TenantIdentity) : Names t.entries tenantNames := names_of_good (by decide) rfl

theorem parseTenant_entries {t : TenantIdentity} (h : t.check = .ok ()) :
    parseTenant (.obj t.entries) = .ok t.canonical := by
  have hparts := h
  simp only [TenantIdentity.check, bind_eq_ok, exists_unit, stringTuple_eq_ok] at hparts
  obtain ⟨hid, hdisplay, hcount, haliases, -⟩ := hparts
  have hn := t.names
  have hk := hn.fields_nodup
  have hlength : (sortedStrings t.legacyAliases).length ≤ maxRegistryItems := by rwa [length_sortedStrings]
  have hcheck := TenantIdentity.check_canonical.mpr h
  simp only [TenantIdentity.canonical] at hcheck
  simp only [parseTenant, object_names hn,
    stringAt_get hk 0 "tenant_id" (utf8_of_required hid) rfl,
    stringAt_get hk 1 "display_name" (utf8_of_required hdisplay) rfl,
    stringsAt_get hk 2 "legacy_aliases" hlength (utf8_of_sorted haliases) rfl, bind, Except.bind, hcheck]
  rfl

theorem TraceIdentityBinding.names (b : TraceIdentityBinding) : Names b.entries traceBindingNames := names_of_good (by decide) rfl

theorem parseTraceBinding_entries {b : TraceIdentityBinding} (h : b.check = .ok ()) :
    parseTraceBinding (.obj b.entries) = .ok b := by
  have hparts := h
  simp only [TraceIdentityBinding.check, bind_eq_ok, exists_unit] at hparts
  obtain ⟨htrace, hrepository, htenant⟩ := hparts
  have hn := b.names
  have hk := hn.fields_nodup
  simp only [parseTraceBinding, object_names hn,
    stringAt_get hk 0 "trace_id" (utf8_of_required htrace) rfl,
    stringAt_get hk 1 "repository_id" (utf8_of_required hrepository) rfl,
    stringAt_get hk 2 "tenant_id" (utf8_of_required htenant) rfl, bind, Except.bind, h]
  rfl

end Registries

section Scopes

theorem ScopeKind.text_injective {p q : ScopeKind} (h : p.text = q.text) : p = q := by
  revert h
  cases p <;> cases q <;> decide

theorem ScopeKind.mem_all (p : ScopeKind) : p ∈ scopeKinds := by
  cases p <;> decide

theorem ScopeKind.utf8_text (p : ScopeKind) : utf8 p.text = true := by
  cases p <;> rfl

theorem MemoryScopeKind.text_injective {p q : MemoryScopeKind} (h : p.text = q.text) : p = q := by
  revert h
  cases p <;> cases q <;> decide

theorem MemoryScopeKind.mem_all (p : MemoryScopeKind) : p ∈ memoryScopeKinds := by
  cases p <;> decide

theorem MemoryScopeKind.utf8_text (p : MemoryScopeKind) : utf8 p.text = true := by
  cases p <;> rfl

theorem utf8_of_optional {value : Option Str} {name : Str} (h : optionalIdentifier value name = .ok ()) :
    ∀ v ∈ value, utf8 v = true := by
  rintro v rfl
  exact utf8_of_required h

theorem parseAttributes_fields {attributes : List (Str × Str)}
    (hvalues : ∀ a ∈ attributes, utf8 a.1 = true ∧ utf8 a.2 = true) :
    parseAttributes (.obj (attributeFields attributes)) = .ok (orderBy Prod.fst attributes) := by
  have hsorted : orderBy Prod.fst (attributeFields attributes) = attributeFields attributes := by
    apply orderBy_of_pairwise
    rw [attributeFields, List.pairwise_map]
    exact orderBy_pairwise Prod.fst attributes
  rw [parseAttributes, hsorted, attributeFields]
  have hall : ∀ a ∈ orderBy Prod.fst attributes, utf8 a.1 = true ∧ utf8 a.2 = true :=
    fun a ha => hvalues a (mem_orderBy.mp ha)
  generalize orderBy Prod.fst attributes = l at hall
  induction l with
  | nil => rfl
  | cons a l ih =>
    obtain ⟨hkey, hvalue⟩ := hall a List.mem_cons_self
    have hunicode : ∀ name, unicode a.1 name = .ok () := fun name => by simp [unicode, hkey]
    rw [List.map_cons, collect, ih fun b hb => hall b (List.mem_cons_of_mem _ hb)]
    simp only [hunicode, string_text hvalue, bind, Except.bind]
    rfl

theorem utf8_applicability {key : Str} (h : key ∈ applicabilityFields) : utf8 key = true := by
  have hall : applicabilityFields.all utf8 = true := rfl
  exact List.all_eq_true.mp hall key h

theorem AuthorizationScope.names (s : AuthorizationScope) : Names s.entries scopeNames := names_of_good (by decide) rfl

theorem MemoryScopeBinding.names (b : MemoryScopeBinding) : Names b.entries memoryScopeNames := names_of_good (by decide) rfl

theorem parseMemoryScope_entries {b : MemoryScopeBinding} (h : b.check = .ok ()) :
    parseMemoryScope (.obj b.entries) = .ok b.canonical := by
  obtain ⟨hmemory, hscope⟩ : requiredIdentifier b.memoryId (lit "memory_id") = .ok () ∧ b.scope.check = .ok () := by
    simpa only [MemoryScopeBinding.check, bind_eq_ok, exists_unit] using h
  have hparts := hscope
  simp only [AuthorizationScope.check, bind_eq_ok, exists_unit, checkAttributes_eq_ok] at hparts
  obtain ⟨htenant, hrepository, -, -, -, hattributes, -⟩ := hparts
  have hn := b.names
  have hs := b.scope.names
  have hk := hn.fields_nodup
  have hsk := hs.fields_nodup
  have hinner := valueAt_get hk 2 (lit "scope") (.obj b.scope.entries) rfl
  have hkind := valueAt_get hsk 0 (lit "kind") (.str b.scope.kind.text) rfl
  have hfields := valueAt_get hsk 3 (lit "attributes") (.obj (attributeFields b.scope.attributes)) rfl
  have hread := @parseAttributes_fields b.scope.attributes fun a ha =>
    ⟨utf8_applicability (hattributes a ha).2.1, utf8_of_required (hattributes a ha).1⟩
  have hnamed := @named_text ScopeKind scopeKinds ScopeKind.text b.scope.kind b.scope.kind.mem_all
    (fun q _ hq => ScopeKind.text_injective hq)
  have hmemoryKind := @named_text MemoryScopeKind memoryScopeKinds MemoryScopeKind.text b.memoryKind
    b.memoryKind.mem_all (fun q _ hq => MemoryScopeKind.text_injective hq)
  have hscopeCheck := AuthorizationScope.check_canonical.mpr hscope
  have hcheck := MemoryScopeBinding.check_canonical.mpr h
  simp only [AuthorizationScope.canonical] at hscopeCheck
  simp only [MemoryScopeBinding.canonical, AuthorizationScope.canonical] at hcheck
  simp only [parseMemoryScope, object_names hn, hinner, object_names hs, hfields, hread, hkind,
    stringAt_get hk 0 "memory_kind" b.memoryKind.utf8_text rfl,
    stringAt_get hk 1 "memory_id" (utf8_of_required hmemory) rfl, string_text b.scope.kind.utf8_text,
    nullableAt_get hsk 1 "tenant_id" (utf8_of_optional htenant) rfl,
    nullableAt_get hsk 2 "repository_id" (utf8_of_optional hrepository) rfl, hnamed, hmemoryKind,
    bind, Except.bind, hscopeCheck, hcheck]
  rfl

end Scopes

section Evidence

theorem MeasuredResult.text_injective {p q : MeasuredResult} (h : p.text = q.text) : p = q := by
  revert h
  cases p <;> cases q <;> decide

theorem MeasuredResult.mem_all (p : MeasuredResult) : p ∈ measuredResults := by
  cases p <;> decide

theorem MeasuredResult.utf8_text (p : MeasuredResult) : utf8 p.text = true := by
  cases p <;> rfl

theorem AncestryMode.text_injective {p q : AncestryMode} (h : p.text = q.text) : p = q := by
  revert h
  cases p <;> cases q <;> decide

theorem AncestryMode.mem_all (p : AncestryMode) : p ∈ ancestryModes := by
  cases p <;> decide

theorem AncestryMode.utf8_text (p : AncestryMode) : utf8 p.text = true := by
  cases p <;> rfl

theorem CommitRelationEvidence.names (e : CommitRelationEvidence) : Names e.entries commitRelationNames := names_of_good (by decide) rfl

theorem parseCommitRelation_entries {e : CommitRelationEvidence} (h : e.check = .ok ()) (label : String) :
    parseCommitRelation label (.obj e.entries) = .ok e := by
  have hparts := h
  simp only [CommitRelationEvidence.check, bind_eq_ok, exists_unit] at hparts
  obtain ⟨hfrom, hto, hby, hat⟩ := hparts
  have hn := e.names
  have hk := hn.fields_nodup
  have hrelation : ∀ message, named commitRelations CommitRelation.text e.relation.text message = .ok e.relation := by
    cases e.relation
    exact fun message => rfl
  have htext : utf8 e.relation.text = true := by
    cases e.relation
    rfl
  simp only [parseCommitRelation, object_names hn,
    stringAt_get hk 0 "from_commit_sha" (utf8_of_required hfrom) rfl,
    stringAt_get hk 1 "to_commit_sha" (utf8_of_required hto) rfl,
    stringAt_get hk 2 "relation" htext rfl,
    stringAt_get hk 3 "verified_by" (utf8_of_required hby) rfl,
    stringAt_get hk 4 "verified_at" (utf8_of_timestamp hat) rfl, hfrom, hto, hrelation, bind, Except.bind, h]
  rfl

theorem RegressionEvidence.artifactHashes_length {e : RegressionEvidence} (h : e.check = .ok ()) :
    (sortedStrings e.artifactHashes).length ≤ maxRegistryItems := by
  simp only [RegressionEvidence.check, bind_eq_ok, exists_unit, raiseIf_eq_ok, not_lt] at h
  obtain ⟨-, -, -, -, -, hcount, -⟩ := h
  have hbound : maxArtifactHashes ≤ maxRegistryItems := by decide
  rw [length_sortedStrings]
  exact hcount.trans hbound

theorem RegressionEvidence.names (e : RegressionEvidence) : Names e.entries evidenceNames := names_of_good (by decide) rfl

theorem parseRegressionEvidence_entries {e : RegressionEvidence} (h : e.check = .ok ()) :
    parseRegressionEvidence (.obj e.entries) = .ok e.canonical := by
  have hparts := h
  simp only [RegressionEvidence.check, bind_eq_ok, exists_unit, checkEach_eq_ok] at hparts
  obtain ⟨hsource, hfix, hidentifiers, hmetadata, hobserved, -, hhashes, -⟩ := hparts
  have hids := checkEach_eq_ok.mpr hidentifiers
  have hmeta := checkEach_eq_ok.mpr hmetadata
  simp only [RegressionEvidence.identifiers] at hids
  simp only [RegressionEvidence.metadata] at hmeta
  have hid : ∀ f ∈ e.identifiers, utf8 f.1 = true := fun f hf => utf8_of_required (hidentifiers f hf)
  have hvalue : ∀ f ∈ e.metadata, utf8 f.1 = true := fun f hf => utf8_of_required (hmetadata f hf)
  simp only [RegressionEvidence.identifiers, List.mem_cons, List.not_mem_nil, or_false, forall_eq_or_imp,
    forall_eq] at hid
  simp only [RegressionEvidence.metadata, List.mem_cons, List.not_mem_nil, or_false, forall_eq_or_imp,
    forall_eq] at hvalue
  obtain ⟨hevidence, hcase, htrace, hrun, hevaluator⟩ := hid
  obtain ⟨hversion, hsuite, hevalCase, hcommit⟩ := hvalue
  have hartifacts : ∀ v ∈ sortedStrings e.artifactHashes, utf8 v = true :=
    fun v hv => utf8_of_digest (hhashes v (mem_orderBy.mp hv))
  have hn := e.names
  have hk := hn.fields_nodup
  have hsourceAt := valueAt_get hk 11 (lit "source_to_fix") (.obj e.sourceToFix.entries) rfl
  have hfixAt := valueAt_get hk 12 (lit "fix_to_regression") (.obj e.fixToRegression.entries) rfl
  have hnamed := @named_text MeasuredResult measuredResults MeasuredResult.text e.result e.result.mem_all
    (fun q _ hq => MeasuredResult.text_injective hq)
  have hcheck := RegressionEvidence.check_canonical.mpr h
  simp only [RegressionEvidence.canonical] at hcheck
  simp only [parseRegressionEvidence, object_names hn,
    stringAt_get hk 0 "evidence_id" hevidence rfl, stringAt_get hk 1 "case_id" hcase rfl,
    stringAt_get hk 2 "regression_trace_id" htrace rfl, stringAt_get hk 3 "regression_run_id" hrun rfl,
    stringAt_get hk 4 "evaluator_id" hevaluator rfl, stringAt_get hk 5 "evaluator_version" hversion rfl,
    stringAt_get hk 6 "eval_suite" hsuite rfl, stringAt_get hk 7 "eval_case_id" hevalCase rfl,
    stringAt_get hk 8 "evaluated_commit_sha" hcommit rfl, stringAt_get hk 9 "result" e.result.utf8_text rfl,
    stringAt_get hk 10 "observed_at" (utf8_of_timestamp hobserved) rfl,
    hsourceAt, hfixAt, parseCommitRelation_entries hsource, parseCommitRelation_entries hfix,
    stringsAt_get hk 13 "artifact_hashes" (RegressionEvidence.artifactHashes_length h) hartifacts rfl,
    hids, hmeta, hnamed, bind, Except.bind, hcheck]
  rfl

theorem GlobalPolicyApproval.names (a : GlobalPolicyApproval) : Names a.entries approvalNames := names_of_good (by decide) rfl

theorem parseGlobalPolicyApproval_entries {a : GlobalPolicyApproval} (h : a.check = .ok ()) :
    parseGlobalPolicyApproval (.obj a.entries) = .ok a := by
  have hparts := h
  simp only [GlobalPolicyApproval.check, bind_eq_ok, exists_unit] at hparts
  obtain ⟨hpolicy, hprincipal, hevent, hat, hreason⟩ := hparts
  have hn := a.names
  have hk := hn.fields_nodup
  simp only [parseGlobalPolicyApproval, object_names hn,
    stringAt_get hk 0 "policy_id" (utf8_of_required hpolicy) rfl,
    stringAt_get hk 1 "principal_id" (utf8_of_required hprincipal) rfl,
    stringAt_get hk 2 "authorization_event_id" (utf8_of_required hevent) rfl,
    stringAt_get hk 3 "approved_at" (utf8_of_timestamp hat) rfl,
    stringAt_get hk 4 "reason" (utf8_of_required hreason) rfl, bind, Except.bind, h]
  rfl

theorem utf8_of_bypass {p : AncestryPolicy} (h : p.check = .ok ()) : ∀ v ∈ p.bypassReason, utf8 v = true := by
  intro v hv
  cases hmode : p.mode with
  | required =>
    simp only [AncestryPolicy.check, hmode, raiseIf_eq_ok, not_not] at h
    simp [h] at hv
  | disabled =>
    simp only [AncestryPolicy.check, hmode] at h
    rw [Option.mem_def.mp hv] at h
    exact utf8_of_required h

theorem AncestryPolicy.names (p : AncestryPolicy) : Names p.entries ancestryNames := names_of_good (by decide) rfl

theorem parseAncestryPolicy_entries {p : AncestryPolicy} (h : p.check = .ok ()) :
    parseAncestryPolicy (.obj p.entries) = .ok p := by
  have hreason := utf8_of_bypass h
  have hn := p.names
  have hk := hn.fields_nodup
  have hnamed := @named_text AncestryMode ancestryModes AncestryMode.text p.mode p.mode.mem_all
    (fun q _ hq => AncestryMode.text_injective hq)
  simp only [parseAncestryPolicy, object_names hn, stringAt_get hk 0 "mode" p.mode.utf8_text rfl,
    nullableAt_get hk 1 "bypass_reason" hreason rfl, hnamed, bind, Except.bind, h]
  rfl

end Evidence

section Mapping

theorem typedTuple_eq_ok {α : Type} {l : List α} {name : Str} :
    typedTuple l name = .ok () ↔ l.length ≤ maxRegistryItems := by
  simp only [typedTuple, raiseIf_eq_ok, not_lt]

theorem recordsAt_sorted {α κ : Type} [LinearOrder κ] {fields : Fields} (hk : (fields.map Prod.fst).Nodup)
    {parse : Json → Except GateError α} {entries : α → Fields} {c : α → α} {check : α → Except GateError Unit}
    {order : α → κ} (i : Nat) (name : String) {l : List α} (hlength : typedTuple l (lit name) = .ok ())
    (hl : ∀ a ∈ l, check a = .ok ()) (hread : ∀ {a}, check a = .ok () → parse (.obj (entries a)) = .ok (c a))
    (h : fields[i]? = some (lit name, objects entries (orderBy order l))) :
    recordsAt parse fields name = .ok ((orderBy order l).map c) := by
  apply recordsAt_get hk i name
  · rw [length_orderBy]
    exact typedTuple_eq_ok.mp hlength
  · intro a ha
    exact hread (hl a (mem_orderBy.mp ha))
  · exact h

theorem SnapshotV3MigrationMapping.names (m : SnapshotV3MigrationMapping) : Names m.entries mappingNames := names_of_good (by decide) rfl

theorem parseV3MigrationMapping_toDict {m : SnapshotV3MigrationMapping} (hentries : m.checkEntries = .ok ())
    (h : m.check = .ok ()) : parseV3MigrationMapping m.toDict = .ok m.canonical := by
  have hparts := h
  simp only [SnapshotV3MigrationMapping.check, bind_eq_ok, exists_unit] at hparts
  obtain ⟨hrepositories, htenants, htraces, hscopes, hevidence, happrovals, -⟩ := hparts
  simp only [SnapshotV3MigrationMapping.checkEntries, bind_eq_ok, exists_unit, checkEach_eq_ok] at hentries
  obtain ⟨hrepository, htenant, htrace, hscope, hregression, happroval, hpolicy⟩ := hentries
  have hn := m.names
  have hk := hn.fields_nodup
  have hpolicyAt := valueAt_get hk 7 (lit "ancestry_policy") (.obj m.ancestryPolicy.entries) rfl
  have hversion : ¬mappingVersion ≠ mappingVersion := by simp
  have hcheck := check_canonical.mpr h
  simp only [SnapshotV3MigrationMapping.canonical] at hcheck
  have hplain : ∀ {α : Type} (l : List α), l.map id = l := fun l => List.map_id l
  have htraceRead : ∀ {b : TraceIdentityBinding}, b.check = .ok () →
      parseTraceBinding (.obj b.entries) = .ok (id b) := fun hb => parseTraceBinding_entries hb
  have happrovalRead : ∀ {a : GlobalPolicyApproval}, a.check = .ok () →
      parseGlobalPolicyApproval (.obj a.entries) = .ok (id a) := fun ha => parseGlobalPolicyApproval_entries ha
  simp only [SnapshotV3MigrationMapping.toDict, parseV3MigrationMapping, object_names hn,
    stringAt_get hk 0 "mapping_version" (by rfl) rfl,
    recordsAt_sorted hk 1 "repositories" hrepositories hrepository parseRepository_entries rfl,
    recordsAt_sorted hk 2 "tenants" htenants htenant parseTenant_entries rfl,
    recordsAt_sorted hk 3 "trace_bindings" htraces htrace htraceRead rfl,
    recordsAt_sorted hk 4 "memory_scopes" hscopes hscope parseMemoryScope_entries rfl,
    recordsAt_sorted hk 5 "regression_evidence" hevidence hregression parseRegressionEvidence_entries rfl,
    recordsAt_sorted hk 6 "global_policy_approvals" happrovals happroval happrovalRead rfl,
    hplain, hpolicyAt, parseAncestryPolicy_entries hpolicy, raiseIf_of_not hversion, bind, Except.bind, hcheck]
  rfl

end Mapping

section Plans

def SnapshotV3MigrationPlan.canonical (p : SnapshotV3MigrationPlan) : SnapshotV3MigrationPlan :=
  { p with counts := planCountNames.map (fun name => (name, countOf p.counts name)) }

theorem checkCounts_eq_ok {seen : List Str} {counts : List (Str × Int)} :
    checkCounts seen counts = .ok () ↔
      (∀ c ∈ counts, requiredIdentifier c.1 (lit "count name") = .ok () ∧ 0 ≤ c.2 ∧ c.2 ≤ maxMigrationCount ∧
        c.1 ∉ seen) ∧ (counts.map Prod.fst).Nodup := by
  induction counts generalizing seen with
  | nil => simp [checkCounts]
  | cons c counts ih =>
    simp only [checkCounts, bind_eq_ok, exists_unit, raiseIf_eq_ok, not_or, not_lt, ih, List.mem_cons,
      forall_eq_or_imp, List.map_cons, List.nodup_cons, List.mem_map, not_exists, not_and]
    constructor
    · rintro ⟨hname, hseen, ⟨hlow, hhigh⟩, hall, hnodup⟩
      exact ⟨⟨⟨hname, hlow, hhigh, hseen⟩, fun b hb =>
        ⟨(hall b hb).1, (hall b hb).2.1, (hall b hb).2.2.1, (hall b hb).2.2.2.2⟩⟩,
        fun b hb => (hall b hb).2.2.2.1, hnodup⟩
    · rintro ⟨⟨⟨hname, hlow, hhigh, hseen⟩, hall⟩, hfresh, hnodup⟩
      exact ⟨hname, hseen, ⟨hlow, hhigh⟩, fun b hb =>
        ⟨(hall b hb).1, (hall b hb).2.1, (hall b hb).2.2.1, hfresh b hb, (hall b hb).2.2.2⟩, hnodup⟩

theorem countOf_map (counts : List (Str × Int)) {name : Str} (hname : name ∈ planCountNames) :
    countOf (planCountNames.map (fun name => (name, countOf counts name))) name = countOf counts name := by
  have hkeys : (planCountNames.map (fun name => (name, countOf counts name))).map Prod.fst = planCountNames := by
    rw [List.map_map]
    exact List.map_id planCountNames
  have hnodup : ((planCountNames.map (fun name => (name, countOf counts name))).map Prod.fst).Nodup := by
    rw [hkeys]
    decide
  have hfound : Dict.lookupIn name (planCountNames.map (fun name => (name, countOf counts name))) =
      some (countOf counts name) := by
    rw [Dict.lookupIn_eq_some hnodup]
    exact List.mem_map.mpr ⟨name, hname, rfl⟩
  rw [countOf, hfound]
  rfl

theorem count_mem {counts : List (Str × Int)} (hnodup : (counts.map Prod.fst).Nodup) {name : Str}
    (hname : name ∈ counts.map Prod.fst) : (name, countOf counts name) ∈ counts := by
  obtain ⟨⟨key, value⟩, hmem, rfl⟩ := List.mem_map.mp hname
  have hfound := (Dict.lookupIn_eq_some hnodup).mpr hmem
  rw [countOf, hfound]
  exact hmem

theorem SnapshotV3MigrationPlan.check_canonical {p : SnapshotV3MigrationPlan} (h : p.check = .ok ()) :
    p.canonical.check = .ok () := by
  simp only [SnapshotV3MigrationPlan.check, bind_eq_ok, exists_unit, checkCounts_eq_ok, raiseIf_eq_ok, not_not] at h
  obtain ⟨hsource, hmapping, ⟨hcounts, hnodup⟩, hnames, hissues, hmatching, hready⟩ := h
  have hkeys : p.canonical.counts.map Prod.fst = planCountNames := by
    rw [SnapshotV3MigrationPlan.canonical, List.map_map]
    exact List.map_id planCountNames
  have herrors : countOf p.canonical.counts (lit "errors") = countOf p.counts (lit "errors") :=
    countOf_map p.counts (by decide)
  have hwarnings : countOf p.canonical.counts (lit "warnings") = countOf p.counts (lit "warnings") :=
    countOf_map p.counts (by decide)
  simp only [SnapshotV3MigrationPlan.check, bind_eq_ok, exists_unit, checkCounts_eq_ok, raiseIf_eq_ok, not_not,
    hkeys, herrors, hwarnings]
  refine ⟨hsource, hmapping, ⟨?_, by decide⟩, ⟨fun _ hname => hname, fun _ hname => hname⟩, hissues, hmatching,
    hready⟩
  intro c hc
  obtain ⟨name, hname, rfl⟩ := List.mem_map.mp hc
  exact hcounts _ (count_mem hnodup (hnames.2 name hname))

theorem MigrationIssueSeverity.text_injective {p q : MigrationIssueSeverity} (h : p.text = q.text) : p = q := by
  revert h
  cases p <;> cases q <;> decide

theorem MigrationIssueSeverity.mem_all (p : MigrationIssueSeverity) : p ∈ issueSeverities := by
  cases p <;> decide

theorem MigrationIssueSeverity.utf8_text (p : MigrationIssueSeverity) : utf8 p.text = true := by
  cases p <;> rfl

theorem V3MigrationIssue.names (i : V3MigrationIssue) : Names i.entries issueNames := names_of_good (by decide) rfl

theorem parseMigrationIssue_entries {i : V3MigrationIssue} (h : i.check = .ok ()) :
    parseMigrationIssue (.obj i.entries) = .ok (id i) := by
  have hparts := h
  simp only [V3MigrationIssue.check, bind_eq_ok, exists_unit] at hparts
  obtain ⟨hcode, hkind, hid, hmessage⟩ := hparts
  have hn := i.names
  have hk := hn.fields_nodup
  have hnamed := @named_text MigrationIssueSeverity issueSeverities MigrationIssueSeverity.text i.severity
    i.severity.mem_all (fun q _ hq => MigrationIssueSeverity.text_injective hq)
  simp only [parseMigrationIssue, object_names hn, stringAt_get hk 0 "code" (utf8_of_required hcode) rfl,
    stringAt_get hk 1 "severity" i.severity.utf8_text rfl,
    stringAt_get hk 2 "record_kind" (utf8_of_required hkind) rfl,
    stringAt_get hk 3 "record_id" (utf8_of_required hid) rfl,
    stringAt_get hk 4 "message" (utf8_of_required hmessage) rfl, hcode, hnamed, bind, Except.bind, h]
  rfl

def countFields (counts : List (Str × Int)) : Fields :=
  planCountNames.map (fun name => (name, .num (.int (countOf counts name))))

theorem keys_countFields (counts : List (Str × Int)) : (countFields counts).map Prod.fst = planCountNames := by
  rw [countFields, List.map_map]
  exact List.map_id planCountNames

theorem parseCounts_fields (counts : List (Str × Int)) :
    parseCounts (.obj (countFields counts)) = .ok (countFields counts) := by
  have hsame : firstOutside planCountNames planCountNames = none :=
    firstOutside_eq_none.mpr fun _ hname => hname
  rw [parseCounts, keys_countFields, missingField, unknownField, hsame]
  rfl

theorem collect_counts (counts : List (Str × Int)) :
    collect (fun name => do
      let count ← integer (valueAt (countFields counts) name) (lit "count " ++ name)
      return (name, count)) planCountNames =
      .ok (planCountNames.map (fun name => (name, countOf counts name))) := by
  have hkeys : ((countFields counts).map Prod.fst).Nodup := by
    rw [keys_countFields]
    decide
  have hvalue : ∀ name ∈ planCountNames, valueAt (countFields counts) name = .num (.int (countOf counts name)) := by
    intro name hname
    obtain ⟨i, hi⟩ := List.getElem?_of_mem hname
    apply valueAt_get hkeys i
    rw [countFields, List.getElem?_map, hi]
    rfl
  generalize planCountNames = names at hvalue
  induction names with
  | nil => rfl
  | cons name names ih =>
    rw [List.map_cons, collect, ih fun other hother => hvalue other (List.mem_cons_of_mem _ hother),
      hvalue name List.mem_cons_self]
    rfl

theorem SnapshotV3MigrationPlan.names (p : SnapshotV3MigrationPlan) : Names p.entries planNames := names_of_good (by decide) rfl

theorem parseV3MigrationPlan_toDict {p : SnapshotV3MigrationPlan}
    (hissues : checkEach V3MigrationIssue.check p.issues = .ok ()) (h : p.check = .ok ()) :
    parseV3MigrationPlan p.toDict = .ok p.canonical := by
  have hparts := h
  simp only [SnapshotV3MigrationPlan.check, bind_eq_ok, exists_unit] at hparts
  obtain ⟨hsource, hmapping, -, -, htuple, -⟩ := hparts
  have hn := p.names
  have hk := hn.fields_nodup
  have hcountsAt := valueAt_get hk 6 (lit "counts") (.obj (countFields p.counts)) rfl
  have hsourceVersion := valueAt_get hk 1 (lit "source_snapshot_version") (.num (.int 2)) rfl
  have htargetVersion := valueAt_get hk 2 (lit "target_snapshot_version") (.num (.int 3)) rfl
  have hready := valueAt_get hk 5 (lit "ready") (.bool p.ready) rfl
  have hrecords : recordsAt parseMigrationIssue p.entries "issues" = .ok p.issues := by
    rw [← List.map_id p.issues]
    exact recordsAt_get hk 7 "issues" (typedTuple_eq_ok.mp htuple)
      (fun i hi => parseMigrationIssue_entries (checkEach_eq_ok.mp hissues i hi)) rfl
  have hcheck := SnapshotV3MigrationPlan.check_canonical h
  simp only [SnapshotV3MigrationPlan.canonical] at hcheck
  have hcollect := collect_counts p.counts
  simp only [integer, bind, Except.bind] at hcollect
  simp only [SnapshotV3MigrationPlan.toDict, parseV3MigrationPlan, object_names hn, hcountsAt, parseCounts_fields,
    hrecords, stringAt_get hk 0 "plan_version" (by rfl) rfl, hsourceVersion, htargetVersion, hready, integer, boolean,
    stringAt_get hk 3 "source_snapshot_sha256" (utf8_of_digest hsource) rfl,
    stringAt_get hk 4 "mapping_sha256" (utf8_of_digest hmapping) rfl, bind, Except.bind, hcollect,
    ne_eq, not_true_eq_false, raiseIf_of_not, hcheck, not_false_eq_true]
  rfl

end Plans

end Migration

end TraceBackedMemory
