import TraceBackedMemory.Migration.Decoding
import TraceBackedMemory.Migration.Planner

namespace TraceBackedMemory

open Text Raising OrderBy Json EventContract

namespace Migration

section Lookups

variable {α κ : Type} [DecidableEq κ] {k : α → κ} {l m : List α}

theorem keyed_eq_some (hn : (l.map k).Nodup) {i : κ} {a : α} : keyed k l i = some a ↔ a ∈ l ∧ k a = i := by
  constructor
  · intro h
    have hkey := List.find?_some h
    exact ⟨List.mem_of_find?_eq_some h, of_decide_eq_true hkey⟩
  · rintro ⟨ha, rfl⟩
    cases h : keyed k l (k a) with
    | none => exact absurd (List.find?_eq_none.mp h a ha) (by simp)
    | some b =>
      have hkey := List.find?_some h
      rw [decide_eq_true_eq] at hkey
      rw [List.inj_on_of_nodup_map hn (List.mem_of_find?_eq_some h) ha hkey]

theorem keyed_eq_none {i : κ} : keyed k l i = none ↔ i ∉ l.map k := by
  simp [keyed, List.find?_eq_none]

theorem keyed_perm (hperm : l.Perm m) (hn : (l.map k).Nodup) (i : κ) : keyed k l i = keyed k m i := by
  apply Option.ext
  intro a
  have hm : (m.map k).Nodup := (hperm.map k).nodup_iff.mp hn
  rw [keyed_eq_some hn, keyed_eq_some hm, hperm.mem_iff]

theorem keyed_map {c : α → α} (hc : ∀ a, k (c a) = k a) (i : κ) : keyed k (l.map c) i = (keyed k l i).map c := by
  simp only [keyed, List.find?_map, Function.comp_def, hc]

theorem keyed_canonical {μ : Type} [LinearOrder μ] {o : α → μ} {c : α → α} (hn : (l.map k).Nodup)
    (hc : ∀ a, k (c a) = k a) (i : κ) : keyed k ((orderBy o l).map c) i = (keyed k l i).map c := by
  rw [keyed_map hc, keyed_perm (orderBy_perm o l) (((orderBy_perm o l).map k).nodup_iff.mpr hn)]

theorem keyed_ordered {μ : Type} [LinearOrder μ] {o : α → μ} (hn : (l.map k).Nodup) (i : κ) :
    keyed k (orderBy o l) i = keyed k l i :=
  keyed_perm (orderBy_perm o l) (((orderBy_perm o l).map k).nodup_iff.mpr hn) i

theorem sortedStrings_eq_of_perm {l m : List Str} (hperm : l.Perm m) : sortedStrings l = sortedStrings m := by
  refine ((sortedStrings_perm l).trans (hperm.trans (sortedStrings_perm m).symm)).eq_of_pairwise ?_
    (orderBy_pairwise id l) (orderBy_pairwise id m)
  intro a b ha hb hab hba
  exact le_antisymm hab hba

end Lookups

section Uniqueness

structure SnapshotV3MigrationMapping.Unique (m : SnapshotV3MigrationMapping) : Prop where
  repositories : (m.repositories.map CanonicalRepository.repositoryId).Nodup
  repositoryAliases : (m.repositories.flatMap CanonicalRepository.legacyAliases).Nodup
  tenants : (m.tenants.map TenantIdentity.tenantId).Nodup
  tenantAliases : (m.tenants.flatMap TenantIdentity.legacyAliases).Nodup
  traceBindings : (m.traceBindings.map TraceIdentityBinding.traceId).Nodup
  memoryScopes : (m.memoryScopes.map scopeKey).Nodup
  cases : (m.regressionEvidence.map RegressionEvidence.caseId).Nodup
  approvals : (m.globalPolicyApprovals.map GlobalPolicyApproval.policyId).Nodup

variable {m : SnapshotV3MigrationMapping}

theorem unique_of_check (h : m.check = .ok ()) : m.Unique := by
  simp only [SnapshotV3MigrationMapping.check, unique, uniqueAliases, bind_eq_ok, exists_unit, raiseIf_eq_ok,
    not_not] at h
  obtain ⟨-, -, -, -, -, -, hrepositories, -, ⟨haliases, -⟩, htenants, ⟨hnames, -⟩, htraces, hscopes, hcases, -,
    happrovals⟩ := h
  exact ⟨hrepositories, haliases, htenants, hnames, htraces, hscopes, hcases, happrovals⟩

theorem attributes_of_check {b : MemoryScopeBinding} (h : b.check = .ok ()) :
    (b.scope.attributes.map Prod.fst).Nodup := by
  simp only [MemoryScopeBinding.check, AuthorizationScope.check, bind_eq_ok, exists_unit, checkAttributes_eq_ok] at h
  exact h.2.2.2.2.2.2.2

theorem attributes_nodup (hentries : m.checkEntries = .ok ()) {b : MemoryScopeBinding} (hb : b ∈ m.memoryScopes) :
    (b.scope.attributes.map Prod.fst).Nodup := by
  simp only [SnapshotV3MigrationMapping.checkEntries, bind_eq_ok, exists_unit, checkEach_eq_ok] at hentries
  exact attributes_of_check (hentries.2.2.2.1 b hb)

theorem scopeOrder_nodup {l : List MemoryScopeBinding} (hn : (l.map scopeKey).Nodup) : (l.map scopeOrder).Nodup := by
  apply List.Nodup.map_on
  · intro a ha b hb hab
    have htext : a.memoryKind.text = b.memoryKind.text := congrArg (fun p => (ofLex p).1) hab
    have hid : a.memoryId = b.memoryId := congrArg (fun p => (ofLex p).2) hab
    exact List.inj_on_of_nodup_map hn ha hb (Prod.ext (MemoryScopeKind.text_injective htext) hid)
  · exact List.Nodup.of_map _ hn

variable (hu : m.Unique)

include hu

theorem repository_canonical (i : Str) :
    m.canonical.repository? i = (m.repository? i).map CanonicalRepository.canonical :=
  keyed_canonical (c := CanonicalRepository.canonical) hu.repositories (fun _ => rfl) i

theorem tenant_canonical (i : Str) : m.canonical.tenant? i = (m.tenant? i).map TenantIdentity.canonical :=
  keyed_canonical (c := TenantIdentity.canonical) hu.tenants (fun _ => rfl) i

theorem traceBinding_canonical (i : Str) : m.canonical.traceBinding? i = m.traceBinding? i :=
  keyed_ordered hu.traceBindings i

theorem scopeBinding_canonical (kind : MemoryScopeKind) (i : Str) :
    m.canonical.scopeBinding? kind i = (m.scopeBinding? kind i).map MemoryScopeBinding.canonical :=
  keyed_canonical (c := MemoryScopeBinding.canonical) hu.memoryScopes (fun _ => rfl) (kind, i)

theorem evidence_canonical (i : Str) :
    m.canonical.evidence? i = (m.evidence? i).map RegressionEvidence.canonical :=
  keyed_canonical (c := RegressionEvidence.canonical) hu.cases (fun _ => rfl) i

theorem approval_canonical (i : Str) : m.canonical.approval? i = m.approval? i :=
  keyed_ordered hu.approvals i

end Uniqueness

section Traces

variable {m : SnapshotV3MigrationMapping} (hu : m.Unique)

theorem mem_sortedStrings {s : Str} {l : List Str} : s ∈ sortedStrings l ↔ s ∈ l := mem_orderBy

theorem planTraceRepository_canonical (t : Trace) (b : TraceIdentityBinding) (r : Option CanonicalRepository) :
    planTraceRepository t b (r.map CanonicalRepository.canonical) = planTraceRepository t b r := by
  cases r with
  | none => rfl
  | some r =>
    simp only [planTraceRepository, Option.map_some, CanonicalRepository.canonical, mem_sortedStrings]

theorem planTraceTenant_canonical (t : Trace) (b : TraceIdentityBinding) (n : Option TenantIdentity) :
    planTraceTenant t b (n.map TenantIdentity.canonical) = planTraceTenant t b n := by
  cases n with
  | none => rfl
  | some n =>
    simp only [planTraceTenant, Option.map_some, TenantIdentity.canonical, mem_sortedStrings]

include hu in
theorem planTraceIdentity_canonical (t : Trace) : planTraceIdentity m.canonical t = planTraceIdentity m t := by
  simp only [planTraceIdentity, traceBinding_canonical hu, repository_canonical hu, tenant_canonical hu,
    planTraceRepository_canonical, planTraceTenant_canonical]

end Traces

section Memories

variable {m : SnapshotV3MigrationMapping} (hu : m.Unique)

theorem flag_congr {p q : Prop} [Decidable p] [Decidable q] (h : p ↔ q) (i : V3MigrationIssue) :
    flag p i = flag q i := by
  simp only [flag, h]

theorem planScopeField_canonical (memory : SourceMemory) {scope : AuthorizationScope}
    (hattributes : (scope.attributes.map Prod.fst).Nodup) (r : Option CanonicalRepository)
    (n : Option TenantIdentity) (f : Str × Str) :
    planScopeField memory scope.canonical (r.map CanonicalRepository.canonical) (n.map TenantIdentity.canonical) f =
      planScopeField memory scope r n f := by
  have hlookup : Dict.lookupIn f.1 (orderBy Prod.fst scope.attributes) = Dict.lookupIn f.1 scope.attributes :=
    (Dict.lookupIn_of_perm (orderBy_perm Prod.fst scope.attributes).symm hattributes f.1).symm
  simp only [planScopeField, AuthorizationScope.canonical, hlookup, Option.mem_def, Option.map_eq_some_iff,
    forall_exists_index, and_imp, forall_apply_eq_imp_iff₂, CanonicalRepository.canonical, TenantIdentity.canonical,
    mem_sortedStrings]

include hu

theorem bind_repository_canonical (o : Option Str) :
    o.bind m.canonical.repository? = (o.bind m.repository?).map CanonicalRepository.canonical := by
  rw [Option.map_bind]
  exact congrArg o.bind (funext (repository_canonical hu))

theorem bind_tenant_canonical (o : Option Str) :
    o.bind m.canonical.tenant? = (o.bind m.tenant?).map TenantIdentity.canonical := by
  rw [Option.map_bind]
  exact congrArg o.bind (funext (tenant_canonical hu))

theorem planScopeTargets_canonical (memory : SourceMemory) (scope : AuthorizationScope) :
    planScopeTargets m.canonical memory scope.canonical = planScopeTargets m memory scope := by
  have hrepository : scope.repositoryId.bind m.canonical.repository? = none ↔
      scope.repositoryId.bind m.repository? = none := by
    rw [bind_repository_canonical hu, Option.map_eq_none_iff]
  have htenant : scope.tenantId.bind m.canonical.tenant? = none ↔ scope.tenantId.bind m.tenant? = none := by
    rw [bind_tenant_canonical hu, Option.map_eq_none_iff]
  have happroval : m.canonical.approval? memory.memoryId = none ↔ m.approval? memory.memoryId = none := by
    rw [approval_canonical hu]
  rw [planScopeTargets, planScopeTargets]
  refine congr_arg₂ _ (congr_arg₂ _ (congr_arg₂ _ ?_ ?_) rfl) ?_
  · exact flag_congr (and_congr_right fun _ => hrepository) _
  · exact flag_congr (and_congr_right fun _ => htenant) _
  · exact flag_congr (and_congr_right fun _ => and_congr_right fun _ => happroval) _

theorem planLessonSource_canonical (cases : Dict Str FailureCase) (memory : SourceMemory)
    (scope : AuthorizationScope) (sourceCaseId : Str) :
    planLessonSource m.canonical cases memory scope.canonical sourceCaseId =
      planLessonSource m cases memory scope sourceCaseId := by
  have hbinding : m.canonical.traceBinding? = m.traceBinding? := funext (traceBinding_canonical hu)
  rw [planLessonSource, planLessonSource, hbinding]
  rfl

theorem planMemoryScope_canonical (hentries : m.checkEntries = .ok ()) (cases : Dict Str FailureCase)
    (memory : SourceMemory) : planMemoryScope m.canonical cases memory = planMemoryScope m cases memory := by
  cases hbinding : m.scopeBinding? memory.kind memory.memoryId with
  | none => simp only [planMemoryScope, scopeBinding_canonical hu, hbinding, Option.map_none]
  | some b =>
    have hb := (keyed_eq_some hu.memoryScopes).mp hbinding
    have hattributes := attributes_nodup hentries hb.1
    have hrepository : b.scope.canonical.repositoryId.bind m.canonical.repository? =
        (b.scope.repositoryId.bind m.repository?).map CanonicalRepository.canonical :=
      bind_repository_canonical hu b.scope.repositoryId
    have htenant : b.scope.canonical.tenantId.bind m.canonical.tenant? =
        (b.scope.tenantId.bind m.tenant?).map TenantIdentity.canonical :=
      bind_tenant_canonical hu b.scope.tenantId
    have hfields := planScopeField_canonical memory hattributes (b.scope.repositoryId.bind m.repository?)
      (b.scope.tenantId.bind m.tenant?)
    have hfield : planScopeField memory b.scope.canonical
          ((b.scope.repositoryId.bind m.repository?).map CanonicalRepository.canonical)
          ((b.scope.tenantId.bind m.tenant?).map TenantIdentity.canonical) =
        planScopeField memory b.scope (b.scope.repositoryId.bind m.repository?)
          (b.scope.tenantId.bind m.tenant?) := funext hfields
    simp only [planMemoryScope, scopeBinding_canonical hu, hbinding, Option.map_some,
      MemoryScopeBinding.canonical, planScopeTargets_canonical hu, hrepository, htenant, hfield,
      planLessonSource_canonical hu]

end Memories

section Evidence

variable {m : SnapshotV3MigrationMapping} (hu : m.Unique)

include hu

theorem planRegressionEvidence_canonical (traces : Dict Str Trace) (verifier : Option CommitRelationVerifier)
    (c : FailureCase) :
    planRegressionEvidence m.canonical traces verifier c = planRegressionEvidence m traces verifier c := by
  have hbinding : m.canonical.traceBinding? = m.traceBinding? := funext (traceBinding_canonical hu)
  cases hevidence : m.evidence? c.caseId with
  | none => simp only [planRegressionEvidence, evidence_canonical hu, hevidence, Option.map_none]
  | some e =>
    have hidentity : ∀ t, planIdentity m.canonical traces verifier c e.canonical t =
        planIdentity m traces verifier c e t := by
      intro t
      have hrelations : ∀ i, planRelations c e.canonical i verifier = planRelations c e i verifier := by
        intro i
        cases verifier <;> rfl
      simp only [planIdentity, hbinding, hrelations]
    have htrace : planRegressionTrace m.canonical traces verifier c e.canonical =
        planRegressionTrace m traces verifier c e := by
      simp only [planRegressionTrace, hidentity]
      rfl
    simp only [planRegressionEvidence, evidence_canonical hu, hevidence, Option.map_some, htrace]
    rfl

end Evidence

section Plans

variable {m : SnapshotV3MigrationMapping} (hu : m.Unique) (store : Store) (verifier : Option CommitRelationVerifier)

theorem unknownTraceBindings_canonical : unknownTraceBindings m.canonical store = unknownTraceBindings m store := by
  have hperm : (m.canonical.traceBindings.map TraceIdentityBinding.traceId).Perm
      (m.traceBindings.map TraceIdentityBinding.traceId) := (orderBy_perm _ m.traceBindings).map _
  rw [unknownTraceBindings, unknownTraceBindings, sortedStrings_eq_of_perm (hperm.filter _)]

theorem unknownScopeBindings_canonical (hn : (m.memoryScopes.map scopeKey).Nodup) :
    unknownScopeBindings m.canonical store = unknownScopeBindings m store := by
  have horder : ((m.memoryScopes.filter (fun b => !knownMemory store b)).map scopeOrder).Nodup :=
    (List.filter_sublist.map scopeOrder).nodup (scopeOrder_nodup hn)
  have hperm := (orderBy_perm scopeOrder m.memoryScopes).symm.filter (fun b => !knownMemory store b)
  have hsorted := orderBy_eq_of_perm hperm horder
  have hfilter : m.canonical.memoryScopes.filter (fun b => !knownMemory store b) =
      ((orderBy scopeOrder m.memoryScopes).filter (fun b => !knownMemory store b)).map
        MemoryScopeBinding.canonical := by
    rw [SnapshotV3MigrationMapping.canonical, List.filter_map]
    rfl
  have hcanonical : orderBy scopeOrder (m.canonical.memoryScopes.filter (fun b => !knownMemory store b)) =
      (orderBy scopeOrder (m.memoryScopes.filter (fun b => !knownMemory store b))).map
        MemoryScopeBinding.canonical := by
    rw [hfilter, orderBy_map (h := MemoryScopeBinding.canonical) (f := scopeOrder) fun _ => rfl, hsorted]
  rw [unknownScopeBindings, unknownScopeBindings, hcanonical, List.map_map]
  rfl

theorem unknownCases_canonical : unknownCases m.canonical store = unknownCases m store := by
  have hperm : (m.canonical.regressionEvidence.map RegressionEvidence.caseId).Perm
      (m.regressionEvidence.map RegressionEvidence.caseId) :=
    map_canonical_perm (c := RegressionEvidence.canonical) (fun _ => rfl) (orderBy_perm evidenceOrder m.regressionEvidence)
  rw [unknownCases, unknownCases, sortedStrings_eq_of_perm (hperm.filter _)]

theorem globalPolicy_canonical : globalPolicy m.canonical = globalPolicy m := by
  funext policyId
  have hperm := orderBy_perm scopeOrder m.memoryScopes
  rw [globalPolicy, globalPolicy, SnapshotV3MigrationMapping.canonical, List.any_map]
  exact hperm.any_eq

theorem unusedApprovals_canonical : unusedApprovals m.canonical = unusedApprovals m := by
  have hperm : (m.canonical.globalPolicyApprovals.map GlobalPolicyApproval.policyId).Perm
      (m.globalPolicyApprovals.map GlobalPolicyApproval.policyId) := (orderBy_perm _ m.globalPolicyApprovals).map _
  rw [unusedApprovals, unusedApprovals, globalPolicy_canonical, sortedStrings_eq_of_perm (hperm.filter _)]

include hu in
theorem planUsage_canonical : planUsage m.canonical store = planUsage m store := by
  have hbinding : m.canonical.traceBinding? = m.traceBinding? := funext (traceBinding_canonical hu)
  have hlog : unboundLog m.canonical = unboundLog m := by
    funext log
    rw [unboundLog, unboundLog, hbinding]
  rw [planUsage, planUsage, hlog]

include hu in
theorem planIssues_canonical (hentries : m.checkEntries = .ok ()) :
    planIssues m.canonical store verifier = planIssues m store verifier := by
  have htrace : planTraceIdentity m.canonical = planTraceIdentity m := funext (planTraceIdentity_canonical hu)
  have hmemory : planMemoryScope m.canonical store.failureCases = planMemoryScope m store.failureCases :=
    funext (planMemoryScope_canonical hu hentries store.failureCases)
  have hevidence : planRegressionEvidence m.canonical store.traces (activeVerifier m verifier) =
      planRegressionEvidence m store.traces (activeVerifier m verifier) :=
    funext (planRegressionEvidence_canonical hu store.traces (activeVerifier m verifier))
  have hancestry : planAncestry m.canonical verifier = planAncestry m verifier := rfl
  have hactive : activeVerifier m.canonical verifier = activeVerifier m verifier := rfl
  simp only [planIssues, htrace, hmemory, hactive, hevidence, hancestry, unknownTraceBindings_canonical,
    unknownScopeBindings_canonical store hu.memoryScopes, unknownCases_canonical, unusedApprovals_canonical,
    planUsage_canonical hu]

theorem planCounts_canonical (issues : List V3MigrationIssue) :
    planCounts m.canonical store issues = planCounts m store issues := by
  simp only [planCounts, SnapshotV3MigrationMapping.canonical, List.length_map, length_orderBy]

end Plans

section Documents

theorem sortedStrings_idem (l : List Str) : sortedStrings (sortedStrings l) = sortedStrings l :=
  sortedStrings_eq_of_perm (sortedStrings_perm l)

theorem orderBy_idem {α κ : Type} [LinearOrder κ] (k : α → κ) (l : List α) : orderBy k (orderBy k l) = orderBy k l :=
  orderBy_of_pairwise (orderBy_pairwise k l)

theorem objects_canonical {α κ : Type} [LinearOrder κ] {k : α → κ} {c : α → α} {f : α → Fields}
    (hk : ∀ a, k (c a) = k a) (hf : ∀ a, f (c a) = f a) (l : List α) :
    objects f (orderBy k ((orderBy k l).map c)) = objects f (orderBy k l) := by
  have hfields : (fun a => Json.obj (f (c a))) = fun a => .obj (f a) := funext fun a => by rw [hf]
  rw [orderBy_map hk, orderBy_idem, objects, List.map_map, Function.comp_def, hfields, objects]

theorem CanonicalRepository.entries_canonical (r : CanonicalRepository) : r.canonical.entries = r.entries := by
  simp only [CanonicalRepository.entries, CanonicalRepository.canonical, sortedStrings_idem]

theorem TenantIdentity.entries_canonical (t : TenantIdentity) : t.canonical.entries = t.entries := by
  simp only [TenantIdentity.entries, TenantIdentity.canonical, sortedStrings_idem]

theorem MemoryScopeBinding.entries_canonical (b : MemoryScopeBinding) : b.canonical.entries = b.entries := by
  simp only [MemoryScopeBinding.entries, MemoryScopeBinding.canonical, AuthorizationScope.entries,
    AuthorizationScope.canonical, attributeFields, orderBy_idem]

theorem RegressionEvidence.entries_canonical (e : RegressionEvidence) : e.canonical.entries = e.entries := by
  simp only [RegressionEvidence.entries, RegressionEvidence.canonical, sortedStrings_idem]

theorem toDict_canonical (m : SnapshotV3MigrationMapping) : m.canonical.toDict = m.toDict := by
  simp only [SnapshotV3MigrationMapping.toDict, SnapshotV3MigrationMapping.entries,
    SnapshotV3MigrationMapping.canonical, orderBy_idem,
    objects_canonical (k := CanonicalRepository.repositoryId) (c := CanonicalRepository.canonical) (fun _ => rfl)
      CanonicalRepository.entries_canonical,
    objects_canonical (k := TenantIdentity.tenantId) (c := TenantIdentity.canonical) (fun _ => rfl)
      TenantIdentity.entries_canonical,
    objects_canonical (k := scopeOrder) (c := MemoryScopeBinding.canonical) (fun _ => rfl)
      MemoryScopeBinding.entries_canonical,
    objects_canonical (k := evidenceOrder) (c := RegressionEvidence.canonical) (fun _ => rfl)
      RegressionEvidence.entries_canonical]

end Documents

section Planning

theorem canonical_checkEntries {m : SnapshotV3MigrationMapping} :
    m.canonical.checkEntries = .ok () ↔ m.checkEntries = .ok () := by
  simp only [SnapshotV3MigrationMapping.checkEntries, SnapshotV3MigrationMapping.canonical, bind_eq_ok, exists_unit,
    checkEach_eq_ok, List.forall_mem_map, mem_orderBy, CanonicalRepository.check_canonical,
    TenantIdentity.check_canonical, MemoryScopeBinding.check_canonical, RegressionEvidence.check_canonical]

def MigrationMapping.canonical (m : MigrationMapping) : MigrationMapping :=
  ⟨m.1.canonical, canonical_checkEntries.mpr m.2.1, check_canonical.mpr m.2.2⟩

variable (py : Python) (env : Env) (token : Nat) (session : SessionId) (hash : TextHash) (codec : FloatCodec)

theorem plan_canonical (source : SnapshotSource) (m : MigrationMapping) (verifier : Option CommitRelationVerifier) :
    planSnapshotV3Migration py env token session hash codec source m.canonical verifier =
      planSnapshotV3Migration py env token session hash codec source m verifier := by
  have hunique := unique_of_check m.2.2
  have hissues : ∀ store, planIssues m.1.canonical store verifier = planIssues m.1 store verifier :=
    fun store => planIssues_canonical hunique store verifier m.2.1
  simp only [planSnapshotV3Migration, MigrationMapping.canonical, hissues, planOf, planCounts_canonical,
    toDict_canonical]

end Planning

end Migration

end TraceBackedMemory
