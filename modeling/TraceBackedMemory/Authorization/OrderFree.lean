import TraceBackedMemory.Authorization.Isolation
import TraceBackedMemory.Migration.Rearrangement

namespace TraceBackedMemory

open Text Raising OrderBy Json

namespace Authorization

open EventContract (TextHash)

open Migration (AuthorizationScope CanonicalRepository Rearranged keyed_ordered sortedStrings sortedStrings_perm
  sortedStrings_eq_of_perm objects_canonical orderBy_idem ordered_of_rearranged)

section Canonical

def canonicalTime (value : Str) : Str := (canonicalRfc3339 value).toOption.getD value

theorem canonicalTime_cases (value : Str) :
    (canonicalRfc3339 value = .ok (canonicalTime value) ∧ CanonicalText (canonicalTime value) ∧
      instant? (canonicalTime value) = instant? value) ∨ canonicalTime value = value := by
  cases h : canonicalRfc3339 value with
  | error e => exact .inr (by rw [canonicalTime, h]; rfl)
  | ok text =>
    have htime : canonicalTime value = text := by rw [canonicalTime, h]; rfl
    simp only [canonicalRfc3339, bind_eq_ok, demand_eq_ok, GateSession.instant_eq_ok] at h
    obtain ⟨i, hi, htext⟩ := h
    obtain ⟨hcanonical, hinstant⟩ := utcText_eq_some htext
    exact .inl ⟨by rw [htime], htime ▸ hcanonical, by rw [htime, hinstant, hi]⟩

theorem instant_canonicalTime (value : Str) : instant? (canonicalTime value) = instant? value := by
  rcases canonicalTime_cases value with ⟨-, -, h⟩ | h
  · exact h
  · rw [h]

theorem canonicalRfc3339_canonicalTime (value : Str) :
    canonicalRfc3339 (canonicalTime value) = canonicalRfc3339 value := by
  rcases canonicalTime_cases value with ⟨hok, hcanonical, -⟩ | h
  · rw [hok, canonicalRfc3339_canonical hcanonical]
  · rw [h]

def RoleBinding.canonical (b : RoleBinding) : RoleBinding :=
  { b with scope := b.scope.canonical, permissions := sortedPermissions b.permissions,
           validFrom := canonicalTime b.validFrom, expiresAt := b.expiresAt.map canonicalTime }

def AuthorizationPolicyBundle.canonical (p : AuthorizationPolicyBundle) : AuthorizationPolicyBundle where
  policyVersion := p.policyVersion
  principals := orderBy PrincipalIdentity.principalId p.principals
  agentClients := orderBy AgentClientIdentity.agentClientId p.agentClients
  repositories := (orderBy CanonicalRepository.repositoryId p.repositories).map CanonicalRepository.canonical
  repositoryTenants := orderBy RepositoryTenantBinding.repositoryId p.repositoryTenants
  repositoryAliases := orderBy aliasOrder p.repositoryAliases
  roleBindings := (orderBy RoleBinding.bindingId p.roleBindings).map RoleBinding.canonical

theorem sortedPermissions_perm (l : List AuthorizationPermission) : (sortedPermissions l).Perm l := orderBy_perm _ l

theorem AuthorizationPermission.text_injective {a b : AuthorizationPermission} (h : a.text = b.text) : a = b := by
  revert h
  cases a <;> cases b <;> decide

theorem sortedPermissions_eq_of_perm {l m : List AuthorizationPermission} (hperm : l.Perm m) :
    sortedPermissions l = sortedPermissions m := by
  refine ((sortedPermissions_perm l).trans (hperm.trans (sortedPermissions_perm m).symm)).eq_of_pairwise ?_
    (orderBy_pairwise _ l) (orderBy_pairwise _ m)
  intro a b _ _ hab hba
  exact AuthorizationPermission.text_injective (le_antisymm hab hba)

theorem authorizes_canonical (b : RoleBinding) (r : AuthorizationRequest) (repositoryId : Option Str) (decided : Int) :
    b.canonical.authorizes r repositoryId decided = b.authorizes r repositoryId decided := by
  have hwindow : b.canonical.inWindow decided = b.inWindow decided := by
    rw [RoleBinding.inWindow, RoleBinding.inWindow, RoleBinding.canonical, instant_canonicalTime]
    cases b.expiresAt with
    | none => rfl
    | some expiry => rw [Option.map_some, Option.all_some, Option.all_some, instant_canonicalTime]
  have hpermission (a : AuthorizationPermission) : a ∈ b.canonical.permissions ↔ a ∈ b.permissions :=
    (sortedPermissions_perm b.permissions).mem_iff
  simp only [RoleBinding.authorizes, hwindow, hpermission]
  rfl

theorem toDict_canonicalBinding (b : RoleBinding) : b.canonical.toDict = b.toDict := by
  have hexpires : optionalCanonical (b.expiresAt.map canonicalTime) = optionalCanonical b.expiresAt := by
    cases b.expiresAt with
    | none => rfl
    | some expiry =>
      rw [Option.map_some, optionalCanonical, optionalCanonical, canonicalRfc3339_canonicalTime]
  have hpermissions : sortedPermissions (sortedPermissions b.permissions) = sortedPermissions b.permissions :=
    orderBy_idem _ _
  have hscope : b.scope.canonical.entries = b.scope.entries := by
    simp only [AuthorizationScope.entries, AuthorizationScope.canonical, Migration.attributeFields, orderBy_idem]
  rw [RoleBinding.toDict, RoleBinding.toDict]
  simp only [RoleBinding.canonical, RoleBinding.entriesAt, canonicalRfc3339_canonicalTime, hexpires, hpermissions, hscope]

theorem collect_map {α β ε : Type} {f : α → Except ε β} {c : α → α} (hf : ∀ a, f (c a) = f a) (l : List α) :
    collect f (l.map c) = collect f l := by
  induction l with
  | nil => rfl
  | cons a l ih => rw [List.map_cons, collect, collect, hf, ih]

theorem toDict_canonical (p : AuthorizationPolicyBundle) : p.canonical.toDict = p.toDict := by
  have hbindings : collect RoleBinding.toDict (orderBy RoleBinding.bindingId p.canonical.roleBindings) =
      collect RoleBinding.toDict (orderBy RoleBinding.bindingId p.roleBindings) := by
    have hkey (b : RoleBinding) : b.canonical.bindingId = b.bindingId := rfl
    rw [AuthorizationPolicyBundle.canonical, orderBy_map hkey, orderBy_idem, collect_map toDict_canonicalBinding]
  have hentries (bindings : List Json) : p.canonical.entriesWith bindings = p.entriesWith bindings := by
    have hkey (a : CanonicalRepository) : a.canonical.repositoryId = a.repositoryId := rfl
    simp only [AuthorizationPolicyBundle.entriesWith, AuthorizationPolicyBundle.canonical, orderBy_idem,
      objects_canonical hkey Migration.CanonicalRepository.entries_canonical]
  rw [AuthorizationPolicyBundle.toDict, AuthorizationPolicyBundle.toDict, hbindings]
  simp only [hentries]

variable {p : AuthorizationPolicyBundle} (hp : p.Unique) (r : AuthorizationRequest) (decided : Int)

include hp

theorem target_canonical (i : Str) : p.canonical.target? i = p.target? i := keyed_ordered hp.repositoryTenants i

theorem matched_canonical (repositoryId : Option Str) :
    matchedBindings p.canonical r repositoryId decided = matchedBindings p r repositoryId decided := by
  apply sortedStrings_eq_of_perm
  have hsame : (fun b : RoleBinding => b.authorizes r repositoryId decided) ∘ RoleBinding.canonical =
      fun b => b.authorizes r repositoryId decided := funext fun b => authorizes_canonical b r repositoryId decided
  rw [AuthorizationPolicyBundle.canonical, List.filter_map, hsame, List.map_map]
  exact ((orderBy_perm RoleBinding.bindingId p.roleBindings).filter _).map _

theorem resolve_canonical : resolveRepository p.canonical r = resolveRepository p r :=
  (resolve_congr hp (fun _ _ => mem_orderBy.symm) (fun _ _ => mem_orderBy.symm)).symm

theorem evaluate_canonical : evaluate p.canonical r decided = evaluate p r decided := by
  have hprincipal : p.canonical.principal? r.principalId = p.principal? r.principalId := keyed_ordered hp.principals _
  have hclient : p.canonical.client? r.agentClientId = p.client? r.agentClientId := keyed_ordered hp.agentClients _
  simp only [evaluate, targetFinding, bindingFinding, hprincipal, hclient, resolve_canonical hp r,
    target_canonical hp, matched_canonical hp r decided]

theorem authorize_canonical (hash : TextHash) (codec : FloatCodec) (decidedAt : Str) :
    authorize hash codec p.canonical r decidedAt = authorize hash codec p r decidedAt := by
  simp only [authorize, decision, AuthorizationPolicyBundle.sha256, toDict_canonical, evaluate_canonical hp]

end Canonical

section Rearranging

def RoleBinding.Rearranges (b c : RoleBinding) : Prop :=
  ∃ permissions attributes, b.permissions.Perm permissions ∧ b.scope.attributes.Perm attributes ∧
    c = { b with permissions := permissions, scope := { b.scope with attributes := attributes } }

-- the same records under another order of every tuple
structure AuthorizationPolicyBundle.Rearranges (p q : AuthorizationPolicyBundle) : Prop where
  policyVersion : p.policyVersion = q.policyVersion
  principals : p.principals.Perm q.principals
  agentClients : p.agentClients.Perm q.agentClients
  repositories : Rearranged Migration.CanonicalRepository.Rearranges p.repositories q.repositories
  repositoryTenants : p.repositoryTenants.Perm q.repositoryTenants
  repositoryAliases : p.repositoryAliases.Perm q.repositoryAliases
  roleBindings : Rearranged RoleBinding.Rearranges p.roleBindings q.roleBindings

variable {p q : AuthorizationPolicyBundle}

theorem attributes_of_scope {s : AuthorizationScope} (h : s.check = .ok ()) : (s.attributes.map Prod.fst).Nodup := by
  simp only [AuthorizationScope.check, bind_eq_ok, exists_unit, Migration.checkAttributes_eq_ok] at h
  exact h.2.2.2.2.2.2

theorem RoleBinding.canonical_of_rearranges {b c : RoleBinding} (hb : b.scope.check = .ok ()) (h : b.Rearranges c) :
    b.canonical = c.canonical := by
  obtain ⟨permissions, attributes, hpermissions, hattributes, rfl⟩ := h
  simp only [RoleBinding.canonical, AuthorizationScope.canonical, sortedPermissions_eq_of_perm hpermissions,
    orderBy_eq_of_perm hattributes (attributes_of_scope hb)]

theorem aliasOrder_nodup {l : List RepositoryAlias} (hn : (l.map (fun a => (a.tenantId, a.aliasName))).Nodup) :
    (l.map aliasOrder).Nodup := by
  apply List.Nodup.map_on
  · intro a ha b hb hab
    have htenant : a.tenantId = b.tenantId := congrArg (fun k => (ofLex k).1) hab
    have hname : a.aliasName = b.aliasName := congrArg (fun k => (ofLex k).2) hab
    exact List.inj_on_of_nodup_map hn ha hb (Prod.ext htenant hname)
  · exact List.Nodup.of_map _ hn

theorem scopes_of_entries (h : p.checkEntries = .ok ()) : ∀ b ∈ p.roleBindings, b.scope.check = .ok () := by
  simp only [AuthorizationPolicyBundle.checkEntries, bind_eq_ok, exists_unit, checkEach_eq_ok] at h
  exact h.2.2.2.2.2.1

theorem canonical_of_rearranges (hentries : p.checkEntries = .ok ()) (hp : p.Unique) (hr : p.Rearranges q) :
    p.canonical = q.canonical := by
  have hscopes := scopes_of_entries hentries
  have hrepositories := ordered_of_rearranged (c := CanonicalRepository.canonical) (fun _ => rfl)
    (fun _ _ _ => Migration.CanonicalRepository.canonical_of_rearranges) hp.repositories hr.repositories
  have hbindings := ordered_of_rearranged (c := RoleBinding.canonical) (fun _ => rfl)
    (fun b hb _ => RoleBinding.canonical_of_rearranges (hscopes b hb)) hp.roleBindings hr.roleBindings
  rw [AuthorizationPolicyBundle.canonical, AuthorizationPolicyBundle.canonical, hrepositories, hbindings,
    hr.policyVersion, orderBy_eq_of_perm hr.principals hp.principals,
    orderBy_eq_of_perm hr.agentClients hp.agentClients,
    orderBy_eq_of_perm hr.repositoryTenants hp.repositoryTenants,
    orderBy_eq_of_perm hr.repositoryAliases (aliasOrder_nodup hp.aliases)]

end Rearranging

section Decisions

variable {hash : TextHash} {codec : FloatCodec} {p : AuthorizationPolicyBundle} {r : AuthorizationRequest}
  {decidedAt : Str} {d : AuthorizationDecision}

theorem authorize_finding (h : authorize hash codec p r decidedAt = .ok d) :
    ∃ decided, instant? decidedAt = some decided ∧
      (d.allowed = true ↔ (evaluate p r decided).reason = .allowed) ∧ d.reason = (evaluate p r decided).reason ∧
        d.repositoryId = (evaluate p r decided).repositoryId ∧ d.matchedBindingIds = (evaluate p r decided).matched := by
  simp only [authorize, decision, bind_eq_ok, exists_unit, pure_eq_ok, raiseIf_eq_ok] at h
  obtain ⟨decided, htime, _, -, -, _, -, _, -, _, -, _, -, _, -, -, rfl⟩ := h
  refine ⟨decided, ?_, decide_eq_true_iff, rfl, rfl, rfl⟩
  rw [timestamp, demand_eq_ok] at htime
  split at htime
  · exact htime
  · cases htime

end Decisions

end Authorization

end TraceBackedMemory
