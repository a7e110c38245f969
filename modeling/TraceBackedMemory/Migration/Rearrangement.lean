import TraceBackedMemory.Migration.OrderFree
import TraceBackedMemory.Ledger.EventSizes

namespace TraceBackedMemory

open Text Raising OrderBy Json EventContract

namespace Migration

section Rearranging

def Rearranged {α : Type} (R : α → α → Prop) (l m : List α) : Prop := ∃ k, l.Perm k ∧ List.Forall₂ R k m

def CanonicalRepository.Rearranges (r s : CanonicalRepository) : Prop :=
  ∃ aliases, r.legacyAliases.Perm aliases ∧ s = { r with legacyAliases := aliases }

def TenantIdentity.Rearranges (t s : TenantIdentity) : Prop :=
  ∃ aliases, t.legacyAliases.Perm aliases ∧ s = { t with legacyAliases := aliases }

def MemoryScopeBinding.Rearranges (b s : MemoryScopeBinding) : Prop :=
  ∃ attributes, b.scope.attributes.Perm attributes ∧
    s = { b with scope := { b.scope with attributes := attributes } }

def RegressionEvidence.Rearranges (e s : RegressionEvidence) : Prop :=
  ∃ hashes, e.artifactHashes.Perm hashes ∧ s = { e with artifactHashes := hashes }

structure SnapshotV3MigrationMapping.Rearranges (m n : SnapshotV3MigrationMapping) : Prop where
  repositories : Rearranged CanonicalRepository.Rearranges m.repositories n.repositories
  tenants : Rearranged TenantIdentity.Rearranges m.tenants n.tenants
  traceBindings : m.traceBindings.Perm n.traceBindings
  memoryScopes : Rearranged MemoryScopeBinding.Rearranges m.memoryScopes n.memoryScopes
  regressionEvidence : Rearranged RegressionEvidence.Rearranges m.regressionEvidence n.regressionEvidence
  globalPolicyApprovals : m.globalPolicyApprovals.Perm n.globalPolicyApprovals
  ancestryPolicy : m.ancestryPolicy = n.ancestryPolicy

def SnapshotV3MigrationPlan.Rearranges (p q : SnapshotV3MigrationPlan) : Prop :=
  ∃ counts, p.counts.Perm counts ∧ q = { p with counts := counts }

theorem map_of_forall₂ {α β : Type} {R : α → α → Prop} {f : α → β} {l m : List α} (h : List.Forall₂ R l m)
    (hf : ∀ a ∈ l, ∀ b, R a b → f a = f b) : l.map f = m.map f := by
  induction h with
  | nil => rfl
  | cons hab _ ih =>
    rw [List.map_cons, List.map_cons, hf _ List.mem_cons_self _ hab,
      ih fun a ha => hf a (List.mem_cons_of_mem _ ha)]

theorem ordered_of_rearranged {α κ : Type} [LinearOrder κ] {R : α → α → Prop} {k : α → κ} {c : α → α} {l m : List α}
    (hk : ∀ a, k (c a) = k a) (hc : ∀ a ∈ l, ∀ b, R a b → c a = c b) (hn : (l.map k).Nodup)
    (h : Rearranged R l m) : (orderBy k l).map c = (orderBy k m).map c := by
  obtain ⟨l', hperm, hpairs⟩ := h
  have hsame := map_of_forall₂ hpairs fun a ha => hc a (hperm.mem_iff.mpr ha)
  calc (orderBy k l).map c
      _ = (orderBy k l').map c := by rw [orderBy_eq_of_perm hperm hn]
      _ = orderBy k (l'.map c) := (orderBy_map hk l').symm
      _ = orderBy k (m.map c) := by rw [hsame]
      _ = (orderBy k m).map c := orderBy_map hk m

theorem CanonicalRepository.canonical_of_rearranges {r s : CanonicalRepository} (h : r.Rearranges s) :
    r.canonical = s.canonical := by
  obtain ⟨aliases, hperm, rfl⟩ := h
  rw [CanonicalRepository.canonical, CanonicalRepository.canonical, sortedStrings_eq_of_perm hperm]

theorem TenantIdentity.canonical_of_rearranges {t s : TenantIdentity} (h : t.Rearranges s) :
    t.canonical = s.canonical := by
  obtain ⟨aliases, hperm, rfl⟩ := h
  rw [TenantIdentity.canonical, TenantIdentity.canonical, sortedStrings_eq_of_perm hperm]

theorem RegressionEvidence.canonical_of_rearranges {e s : RegressionEvidence} (h : e.Rearranges s) :
    e.canonical = s.canonical := by
  obtain ⟨hashes, hperm, rfl⟩ := h
  rw [RegressionEvidence.canonical, RegressionEvidence.canonical, sortedStrings_eq_of_perm hperm]

theorem MemoryScopeBinding.canonical_of_rearranges {b s : MemoryScopeBinding} (hb : b.check = .ok ())
    (h : b.Rearranges s) : b.canonical = s.canonical := by
  obtain ⟨attributes, hperm, rfl⟩ := h
  simp only [MemoryScopeBinding.canonical, AuthorizationScope.canonical,
    orderBy_eq_of_perm hperm (attributes_of_check hb)]

theorem evidenceOrder_nodup {l : List RegressionEvidence} (hn : (l.map RegressionEvidence.caseId).Nodup) :
    (l.map evidenceOrder).Nodup := by
  apply List.Nodup.map_on
  · intro a ha b hb hab
    exact List.inj_on_of_nodup_map hn ha hb (congrArg (fun p => (ofLex p).1) hab)
  · exact List.Nodup.of_map _ hn

theorem canonical_of_rearranges {m n : SnapshotV3MigrationMapping} (hentries : m.checkEntries = .ok ())
    (h : m.check = .ok ()) (hr : m.Rearranges n) : m.canonical = n.canonical := by
  have hu := unique_of_check h
  have hscope : ∀ b ∈ m.memoryScopes, b.check = .ok () := by
    simp only [SnapshotV3MigrationMapping.checkEntries, bind_eq_ok, exists_unit, checkEach_eq_ok] at hentries
    exact hentries.2.2.2.1
  have hrepositories := ordered_of_rearranged (c := CanonicalRepository.canonical) (fun _ => rfl)
    (fun _ _ _ => CanonicalRepository.canonical_of_rearranges) hu.repositories hr.repositories
  have htenants := ordered_of_rearranged (c := TenantIdentity.canonical) (fun _ => rfl)
    (fun _ _ _ => TenantIdentity.canonical_of_rearranges) hu.tenants hr.tenants
  have hscopes := ordered_of_rearranged (c := MemoryScopeBinding.canonical) (fun _ => rfl)
    (fun b hb _ => MemoryScopeBinding.canonical_of_rearranges (hscope b hb)) (scopeOrder_nodup hu.memoryScopes)
    hr.memoryScopes
  have hevidence := ordered_of_rearranged (c := RegressionEvidence.canonical) (fun _ => rfl)
    (fun _ _ _ => RegressionEvidence.canonical_of_rearranges) (evidenceOrder_nodup hu.cases) hr.regressionEvidence
  rw [SnapshotV3MigrationMapping.canonical, SnapshotV3MigrationMapping.canonical, hrepositories, htenants, hscopes,
    hevidence, hr.ancestryPolicy, orderBy_eq_of_perm hr.traceBindings hu.traceBindings,
    orderBy_eq_of_perm hr.globalPolicyApprovals hu.approvals]

theorem valid_of_rearranges (m : MigrationMapping) {n : SnapshotV3MigrationMapping} (hr : m.1.Rearranges n) :
    n.checkEntries = .ok () ∧ n.check = .ok () := by
  have hsame := canonical_of_rearranges m.2.1 m.2.2 hr
  rw [← @canonical_checkEntries n, ← @check_canonical n, ← hsame]
  exact ⟨canonical_checkEntries.mpr m.2.1, check_canonical.mpr m.2.2⟩

theorem forall₂_map {α : Type} {R : α → α → Prop} {c : α → α} (hR : ∀ a, R a (c a)) (l : List α) :
    List.Forall₂ R l (l.map c) := by
  induction l with
  | nil => exact .nil
  | cons a l ih => exact .cons (hR a) ih

theorem rearranges_canonical (m : SnapshotV3MigrationMapping) : m.Rearranges m.canonical where
  repositories := ⟨_, (orderBy_perm _ _).symm, forall₂_map (fun r => ⟨_, (sortedStrings_perm r.legacyAliases).symm, rfl⟩) _⟩
  tenants := ⟨_, (orderBy_perm _ _).symm, forall₂_map (fun t => ⟨_, (sortedStrings_perm t.legacyAliases).symm, rfl⟩) _⟩
  traceBindings := (orderBy_perm _ _).symm
  memoryScopes := ⟨_, (orderBy_perm _ _).symm, forall₂_map (fun b => ⟨_, (orderBy_perm _ b.scope.attributes).symm, rfl⟩) _⟩
  regressionEvidence :=
    ⟨_, (orderBy_perm _ _).symm, forall₂_map (fun e => ⟨_, (sortedStrings_perm e.artifactHashes).symm, rfl⟩) _⟩
  globalPolicyApprovals := (orderBy_perm _ _).symm
  ancestryPolicy := rfl

theorem plan_rearranges_canonical {p : SnapshotV3MigrationPlan} (h : p.check = .ok ()) : p.Rearranges p.canonical := by
  simp only [SnapshotV3MigrationPlan.check, bind_eq_ok, exists_unit, checkCounts_eq_ok, raiseIf_eq_ok, not_not] at h
  obtain ⟨-, -, ⟨-, hnodup⟩, hnames, -⟩ := h
  refine ⟨_, ?_, rfl⟩
  have hpairs : (planCountNames.map (fun name => (name, countOf p.counts name))).Nodup :=
    List.Nodup.map (fun a b hab => congrArg Prod.fst hab) (by decide)
  rw [List.perm_ext_iff_of_nodup (List.Nodup.of_map _ hnodup) hpairs]
  rintro ⟨name, value⟩
  constructor
  · intro hmem
    have hcount : countOf p.counts name = value := by
      rw [countOf, (Dict.lookupIn_eq_some hnodup).mpr hmem]
      rfl
    exact List.mem_map.mpr ⟨name, hnames.1 name (List.mem_map_of_mem hmem), by rw [hcount]⟩
  · intro hmem
    obtain ⟨name, hname, hpair⟩ := List.mem_map.mp hmem
    rw [← hpair]
    exact count_mem hnodup (hnames.2 name hname)

end Rearranging

section Planning

variable {py : Python} {env : Env} {token : Nat} {session : SessionId} {hash : TextHash} {codec : FloatCodec}

theorem planned_canonical {source : SnapshotSource} {m : MigrationMapping} {verifier : Option CommitRelationVerifier}
    {p : SnapshotV3MigrationPlan}
    (h : planSnapshotV3Migration py env token session hash codec source m verifier = .ok p) :
    checkEach V3MigrationIssue.check p.issues = .ok () ∧ p.check = .ok () ∧ p.canonical = p := by
  simp only [planSnapshotV3Migration, bind_eq_ok, exists_unit, pure_eq_ok] at h
  obtain ⟨store, -, hissues, sourceSha, -, mappingSha, -, hcheck, rfl⟩ := h
  exact ⟨hissues, hcheck, rfl⟩

variable (py env token session hash codec)

theorem mapping_order_free_round_trip :
    (∀ (m : MigrationMapping) (n : SnapshotV3MigrationMapping), m.1.Rearranges n →
      ∃ n' : MigrationMapping, n'.1 = n ∧ n.toDict = m.1.toDict ∧
        canonicalSha256 hash codec n.toDict = canonicalSha256 hash codec m.1.toDict ∧
        ∀ source verifier, planSnapshotV3Migration py env token session hash codec source n' verifier =
          planSnapshotV3Migration py env token session hash codec source m verifier) ∧
      (∀ m : MigrationMapping, m.1.Rearranges m.1.canonical ∧
        parseV3MigrationMapping m.1.toDict = .ok m.1.canonical ∧
        parseV3MigrationMapping m.1.canonical.toDict = .ok m.1.canonical) ∧
      (∀ p : MigrationPlan, p.1.Rearranges p.1.canonical ∧ parseV3MigrationPlan p.1.toDict = .ok p.1.canonical) ∧
      ∀ source m verifier p, planSnapshotV3Migration py env token session hash codec source m verifier = .ok p →
        parseV3MigrationPlan p.toDict = .ok p := by
  refine ⟨fun m n hr => ?_, fun m => ?_, fun p => ?_, fun source m verifier p h => ?_⟩
  · have hvalid := valid_of_rearranges m hr
    have hsame := canonical_of_rearranges m.2.1 m.2.2 hr
    have hdict : n.toDict = m.1.toDict := by rw [← toDict_canonical n, ← hsame, toDict_canonical]
    refine ⟨⟨n, hvalid⟩, rfl, hdict, by rw [hdict], fun source verifier => ?_⟩
    have hcanonical : MigrationMapping.canonical ⟨n, hvalid⟩ = MigrationMapping.canonical m := Subtype.ext hsame.symm
    rw [← plan_canonical, hcanonical, plan_canonical]
  · have hread := parseV3MigrationMapping_toDict m.2.1 m.2.2
    exact ⟨rearranges_canonical m.1, hread, by rw [toDict_canonical, hread]⟩
  · exact ⟨plan_rearranges_canonical p.2.2, parseV3MigrationPlan_toDict p.2.1 p.2.2⟩
  · obtain ⟨hissues, hcheck, hcanonical⟩ := planned_canonical h
    rw [parseV3MigrationPlan_toDict hissues hcheck, hcanonical]

end Planning

section Samples

def sampleRepository (id : String) : CanonicalRepository :=
  ⟨lit id, .localGit, lit id, sampleDigest 'a', lit "repository", []⟩

def descendingMapping : SnapshotV3MigrationMapping :=
  ⟨[sampleRepository "b", sampleRepository "a"], [], [], [], [], [], ⟨.disabled, some (lit "offline")⟩⟩

theorem descendingMapping_valid : descendingMapping.checkEntries = .ok () ∧ descendingMapping.check = .ok () :=
  ⟨rfl, rfl⟩

theorem descendingMapping_reordered :
    ∃ m : MigrationMapping, m.1 = descendingMapping ∧ parseV3MigrationMapping m.1.toDict ≠ .ok m.1 := by
  refine ⟨⟨descendingMapping, descendingMapping_valid⟩, rfl, fun h => ?_⟩
  rw [parseV3MigrationMapping_toDict descendingMapping_valid.1 descendingMapping_valid.2] at h
  have hids := congrArg (fun m => m.repositories.map CanonicalRepository.repositoryId) (Except.ok.inj h)
  revert hids
  decide

end Samples

end Migration

end TraceBackedMemory
