import TraceBackedMemory.Migration.Planner

namespace TraceBackedMemory

open Text Raising OrderBy Json EventContract

namespace Migration

section Counting

theorem length_flag (p : Prop) [Decidable p] (i : V3MigrationIssue) : (flag p i).length = (decide p).toNat := by
  by_cases h : p <;> simp [flag, h]

theorem length_flatMap_flag {α : Type} {f : α → List V3MigrationIssue} {p : α → Bool} (l : List α)
    (hf : ∀ a ∈ l, (f a).length = (p a).toNat) : (l.flatMap f).length = l.countP p := by
  induction l with
  | nil => rfl
  | cons a l ih =>
    rw [List.flatMap_cons, List.length_append, hf a List.mem_cons_self,
      ih fun b hb => hf b (List.mem_cons_of_mem _ hb), List.countP_cons]
    cases p a <;> simp [Nat.add_comm]

theorem length_flatMap_count {α : Type} {f : α → List V3MigrationIssue} {n : α → Nat} (l : List α)
    (hf : ∀ a, (f a).length = n a) : (l.flatMap f).length = (l.map n).sum := by
  rw [List.length_flatMap, funext hf]

end Counting

section Traces

variable (m : SnapshotV3MigrationMapping)

-- a name that its record does not know, and a missing name, are one hazard each
def nameHazard (name : Option Str) (aliases : Option (List Str)) : Bool :=
  match aliases, name with
  | some aliases, some name => decide (name ∉ aliases)
  | _, _ => true

def traceHazards (t : Trace) : Nat :=
  match m.traceBinding? t.traceId with
  | none => 1
  | some b => (nameHazard t.repo ((m.repository? b.repositoryId).map CanonicalRepository.legacyAliases)).toNat +
      (nameHazard t.tenant ((m.tenant? b.tenantId).map TenantIdentity.legacyAliases)).toNat

theorem length_planTraceRepository (t : Trace) (b : TraceIdentityBinding) (r : Option CanonicalRepository) :
    (planTraceRepository t b r).length = (nameHazard t.repo (r.map CanonicalRepository.legacyAliases)).toNat := by
  cases r with
  | none => rfl
  | some r =>
    cases hrepo : t.repo with
    | none =>
      simp only [planTraceRepository, hrepo]
      rfl
    | some repo => simp only [planTraceRepository, hrepo, length_flag, Option.map_some, nameHazard]

theorem length_planTraceTenant (t : Trace) (b : TraceIdentityBinding) (n : Option TenantIdentity) :
    (planTraceTenant t b n).length = (nameHazard t.tenant (n.map TenantIdentity.legacyAliases)).toNat := by
  cases n with
  | none => rfl
  | some n =>
    cases htenant : t.tenant with
    | none =>
      simp only [planTraceTenant, htenant]
      rfl
    | some tenant => simp only [planTraceTenant, htenant, length_flag, Option.map_some, nameHazard]

theorem length_planTraceIdentity (t : Trace) : (planTraceIdentity m t).length = traceHazards m t := by
  cases hbinding : m.traceBinding? t.traceId with
  | none => simp only [planTraceIdentity, traceHazards, hbinding, List.length_singleton]
  | some b =>
    simp only [planTraceIdentity, traceHazards, hbinding, List.length_append, length_planTraceRepository,
      length_planTraceTenant]

end Traces

section Memories

variable (m : SnapshotV3MigrationMapping)

def fieldHazard (scope : AuthorizationScope) (f : Str × Str) : Bool :=
  if f.1 = lit "repo" then
    decide (scope.kind ≠ .repository) ||
      nameHazard (some f.2) ((scope.repositoryId.bind m.repository?).map CanonicalRepository.legacyAliases)
  else if f.1 = lit "tenant" then
    nameHazard (some f.2) ((scope.tenantId.bind m.tenant?).map TenantIdentity.legacyAliases)
  else decide (Dict.lookupIn f.1 scope.attributes ≠ some f.2)

def targetHazards (memory : SourceMemory) (scope : AuthorizationScope) : Nat :=
  (decide (scope.repositoryId ≠ none ∧ scope.repositoryId.bind m.repository? = none)).toNat +
    (decide (scope.tenantId ≠ none ∧ scope.tenantId.bind m.tenant? = none)).toNat +
    (decide (memory.kind = .lesson ∧ scope.kind = .global)).toNat +
    (decide (memory.kind = .projectPolicy ∧ scope.kind = .global ∧ m.approval? memory.memoryId = none)).toNat

def lessonHazards (cases : Dict Str FailureCase) (scope : AuthorizationScope) (l : Lesson) : Nat :=
  match (cases.get? l.sourceCaseId).bind (fun c => m.traceBinding? c.sourceTraceId) with
  | none => 0
  | some b => (decide (scope.tenantId ≠ some b.tenantId)).toNat +
      (decide (scope.kind = .repository ∧ scope.repositoryId ≠ some b.repositoryId)).toNat

def memoryHazards (cases : Dict Str FailureCase) (memory : SourceMemory) : Nat :=
  match m.scopeBinding? memory.kind memory.memoryId with
  | none => 1
  | some b => targetHazards m memory b.scope + memory.scope.entries.countP (fieldHazard m b.scope) +
      match memory with
      | .lesson l => lessonHazards m cases b.scope l
      | .projectPolicy _ => 0

theorem nameHazard_some (name : Str) {α : Type} (f : α → List Str) (o : Option α) :
    nameHazard (some name) (o.map f) = decide (∀ a ∈ o, name ∉ f a) := by
  cases o <;> simp [nameHazard]

theorem length_planScopeField (memory : SourceMemory) (scope : AuthorizationScope) (f : Str × Str) :
    (planScopeField memory scope (scope.repositoryId.bind m.repository?) (scope.tenantId.bind m.tenant?) f).length =
      (fieldHazard m scope f).toNat := by
  by_cases hrepo : f.1 = lit "repo"
  · simp only [planScopeField, fieldHazard, hrepo, if_true, length_flag, nameHazard_some, Bool.decide_or]
  · by_cases htenant : f.1 = lit "tenant"
    · simp only [planScopeField, fieldHazard, if_neg hrepo, if_pos htenant, length_flag, nameHazard_some]
    · simp only [planScopeField, fieldHazard, if_neg hrepo, if_neg htenant, length_flag]

theorem length_planLessonSource (cases : Dict Str FailureCase) (scope : AuthorizationScope) (l : Lesson) :
    (planLessonSource m cases (.lesson l) scope l.sourceCaseId).length = lessonHazards m cases scope l := by
  cases hsource : (cases.get? l.sourceCaseId).bind (fun c => m.traceBinding? c.sourceTraceId) with
  | none => simp only [planLessonSource, lessonHazards, hsource, List.length_nil]
  | some b => simp only [planLessonSource, lessonHazards, hsource, List.length_append, length_flag]

theorem length_planMemoryScope (cases : Dict Str FailureCase) (memory : SourceMemory) :
    (planMemoryScope m cases memory).length = memoryHazards m cases memory := by
  cases hbinding : m.scopeBinding? memory.kind memory.memoryId with
  | none => simp only [planMemoryScope, memoryHazards, hbinding, List.length_singleton]
  | some b =>
    have hfields := length_flatMap_flag memory.scope.entries fun f _ => length_planScopeField m memory b.scope f
    simp only [planMemoryScope, memoryHazards, hbinding, List.length_append, hfields, planScopeTargets,
      length_flag, targetHazards]
    cases memory with
    | lesson l => rw [length_planLessonSource]
    | projectPolicy p => rfl

end Memories

section Evidence

variable (m : SnapshotV3MigrationMapping) (traces : Dict Str Trace) (verifier : Option CommitRelationVerifier)

def commitHazards (c : FailureCase) (e : RegressionEvidence) : Nat :=
  match c.fixCommitSha with
  | none => 1
  | some fix =>
    (decide (e.sourceToFix.fromCommitSha ≠ c.commitSha ∨ e.sourceToFix.toCommitSha ≠ fix)).toNat +
      (decide (e.fixToRegression.fromCommitSha ≠ fix ∨
        e.fixToRegression.toCommitSha ≠ e.evaluatedCommitSha)).toNat

def unverifiedRelation (repositoryId : Str) (f : Str × CommitRelationEvidence) : Bool :=
  verifier.any (fun verify => decide (verify repositoryId f.2 ≠ .answered true))

def identityHazards (c : FailureCase) (e : RegressionEvidence) (t : Trace) : Nat :=
  match (traces.get? c.sourceTraceId).bind (fun s => m.traceBinding? s.traceId), m.traceBinding? t.traceId with
  | some b, some b' =>
    if sharedIdentity b b' then e.relations.countP (unverifiedRelation verifier b.repositoryId) else 1
  | _, _ => 1

def regressionHazards (c : FailureCase) (e : RegressionEvidence) : Nat :=
  match traces.get? e.regressionTraceId with
  | none => 1
  | some t => (!traceMatches e t).toNat + identityHazards m traces verifier c e t

def caseHazards (c : FailureCase) : Nat :=
  match m.evidence? c.caseId with
  | none => (evidenceRequired c).toNat
  | some e => (!evidenceRequired c).toNat + (decide (e.result ≠ .pass)).toNat + commitHazards c e +
      regressionHazards m traces verifier c e

theorem length_planCommits (c : FailureCase) (e : RegressionEvidence) :
    (planCommits c e).length = commitHazards c e := by
  cases hfix : c.fixCommitSha with
  | none => simp only [planCommits, commitHazards, hfix, List.length_singleton]
  | some fix => simp only [planCommits, commitHazards, hfix, List.length_append, length_flag]

theorem length_planRelation (c : FailureCase) (verify : CommitRelationVerifier) (repositoryId : Str)
    (f : Str × CommitRelationEvidence) :
    (planRelation c verify repositoryId f).length = (unverifiedRelation (some verify) repositoryId f).toNat := by
  cases hanswer : verify repositoryId f.2 with
  | raised => simp [planRelation, unverifiedRelation, hanswer]
  | invalid => simp [planRelation, unverifiedRelation, hanswer]
  | answered verified =>
    cases verified <;> simp [planRelation, unverifiedRelation, hanswer, flag]

theorem length_planRelations (c : FailureCase) (e : RegressionEvidence) (repositoryId : Str) :
    (planRelations c e repositoryId verifier).length = e.relations.countP (unverifiedRelation verifier repositoryId) := by
  cases verifier with
  | none => rfl
  | some verify => exact length_flatMap_flag e.relations fun f _ => length_planRelation c verify repositoryId f

theorem length_planIdentity (c : FailureCase) (e : RegressionEvidence) (t : Trace) :
    (planIdentity m traces verifier c e t).length = identityHazards m traces verifier c e t := by
  cases hsource : (traces.get? c.sourceTraceId).bind (fun s => m.traceBinding? s.traceId) with
  | none => simp only [planIdentity, identityHazards, hsource, List.length_singleton]
  | some b =>
    cases hregression : m.traceBinding? t.traceId with
    | none => simp only [planIdentity, identityHazards, hsource, hregression, List.length_singleton]
    | some b' =>
      simp only [planIdentity, identityHazards, hsource, hregression]
      split
      · exact length_planRelations verifier c e b.repositoryId
      · rfl

theorem length_planRegressionTrace (c : FailureCase) (e : RegressionEvidence) :
    (planRegressionTrace m traces verifier c e).length = regressionHazards m traces verifier c e := by
  cases htrace : traces.get? e.regressionTraceId with
  | none => simp only [planRegressionTrace, regressionHazards, htrace, List.length_singleton]
  | some t =>
    simp only [planRegressionTrace, regressionHazards, htrace, List.length_append, length_flag, length_planIdentity]
    cases traceMatches e t <;> rfl

theorem length_planRegressionEvidence (c : FailureCase) :
    (planRegressionEvidence m traces verifier c).length = caseHazards m traces verifier c := by
  cases hevidence : m.evidence? c.caseId with
  | none =>
    simp only [planRegressionEvidence, caseHazards, hevidence, length_flag]
    cases evidenceRequired c <;> rfl
  | some e =>
    simp only [planRegressionEvidence, caseHazards, hevidence, List.length_append, length_flag, length_planCommits,
      length_planRegressionTrace]
    cases evidenceRequired c <;> rfl

end Evidence

section Plans

variable (m : SnapshotV3MigrationMapping) (store : Store) (verifier : Option CommitRelationVerifier)

def ancestryHazard : Bool :=
  match m.ancestryPolicy.mode with
  | .required => verifier.isNone
  | .disabled => true

-- the hazards of a snapshot under a mapping, each counted once
def hazards : Nat :=
  (ancestryHazard m verifier).toNat + (store.traces.values.map (traceHazards m)).sum +
    m.traceBindings.countP (fun b => !store.traces.contains b.traceId) +
    ((sourceMemories store).map (memoryHazards m store.failureCases)).sum +
    m.memoryScopes.countP (fun b => !knownMemory store b) +
    (store.failureCases.values.map (caseHazards m store.traces (activeVerifier m verifier))).sum +
    m.regressionEvidence.countP (fun e => !store.failureCases.contains e.caseId) +
    m.globalPolicyApprovals.countP (fun a => !globalPolicy m a.policyId) +
    (store.usageLogs.countP (unboundLog m) + (!store.usageLogs.isEmpty).toNat)

theorem length_sorted_ids {α : Type} (f : α → Str) (p : Str → Bool) (l : List α) :
    (sortedStrings ((l.map f).filter p)).length = l.countP (fun a => p (f a)) := by
  rw [sortedStrings, length_orderBy, ← List.countP_eq_length_filter, List.countP_map]
  rfl

theorem length_planIssues : (planIssues m store verifier).length = hazards m store verifier := by
  have hancestry : (planAncestry m verifier).length = (ancestryHazard m verifier).toNat := by
    cases hmode : m.ancestryPolicy.mode with
    | required =>
      simp only [planAncestry, ancestryHazard, hmode, length_flag]
      cases verifier <;> rfl
    | disabled => simp only [planAncestry, ancestryHazard, hmode, List.length_singleton, Bool.toNat_true]
  have hscopes : (unknownScopeBindings m store).length = m.memoryScopes.countP (fun b => !knownMemory store b) := by
    rw [unknownScopeBindings, List.length_map, length_orderBy, ← List.countP_eq_length_filter]
  have husage : (planUsage m store).length =
      store.usageLogs.countP (unboundLog m) + (!store.usageLogs.isEmpty).toNat := by
    rw [planUsage, List.length_append, List.length_map, ← List.countP_eq_length_filter, length_flag]
    cases store.usageLogs <;> rfl
  simp only [planIssues, hazards, List.length_append, hancestry, hscopes, husage,
    length_flatMap_count _ (length_planTraceIdentity m),
    length_flatMap_count _ (length_planMemoryScope m store.failureCases),
    length_flatMap_count _ (length_planRegressionEvidence m store.traces (activeVerifier m verifier)),
    unknownTraceBindings, unknownCases, unusedApprovals, List.length_map, length_sorted_ids]

end Plans

end Migration

end TraceBackedMemory
