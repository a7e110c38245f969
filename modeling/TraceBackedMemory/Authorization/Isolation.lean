import TraceBackedMemory.Authorization.Decisions
import TraceBackedMemory.Migration.OrderFree

namespace TraceBackedMemory

open Text Raising OrderBy Json

namespace Authorization

open EventContract (TextHash)

open Migration (CanonicalRepository keyed keyed_eq_some keyed_eq_none sortedStrings sortedStrings_perm sortedStrings_eq_of_perm)

section Policies

structure AuthorizationPolicyBundle.Unique (p : AuthorizationPolicyBundle) : Prop where
  principals : (p.principals.map PrincipalIdentity.principalId).Nodup
  agentClients : (p.agentClients.map AgentClientIdentity.agentClientId).Nodup
  repositories : (p.repositories.map CanonicalRepository.repositoryId).Nodup
  repositoryTenants : (p.repositoryTenants.map RepositoryTenantBinding.repositoryId).Nodup
  roleBindings : (p.roleBindings.map RoleBinding.bindingId).Nodup
  aliases : (p.repositoryAliases.map (fun a => (a.tenantId, a.aliasName))).Nodup
  targets : ∀ a ∈ p.repositoryAliases, (p.target? a.repositoryId).map RepositoryTenantBinding.tenantId = some a.tenantId

variable {p : AuthorizationPolicyBundle}

theorem checkAliases_eq_ok {seen : List (Str × Str)} {aliases : List RepositoryAlias} :
    p.checkAliases seen aliases = .ok () ↔
      (∀ a ∈ aliases, (a.tenantId, a.aliasName) ∉ seen ∧
        (¬∃ t ∈ p.repositoryTenants, t.tenantId = a.tenantId ∧ t.repositoryId = a.aliasName) ∧
          (p.target? a.repositoryId).map RepositoryTenantBinding.tenantId = some a.tenantId) ∧
        (aliases.map (fun a => (a.tenantId, a.aliasName))).Nodup := by
  induction aliases generalizing seen with
  | nil => simp [AuthorizationPolicyBundle.checkAliases]
  | cons a aliases ih =>
    simp only [AuthorizationPolicyBundle.checkAliases, bind_eq_ok, exists_unit, raiseIf_eq_ok, ih, not_or, not_not,
      ne_eq, List.mem_cons, forall_eq_or_imp, List.map_cons, List.nodup_cons, List.mem_map]
    constructor
    · rintro ⟨⟨hseen, hcanonical⟩, htarget, hall, hnodup⟩
      refine ⟨⟨⟨hseen, hcanonical, htarget⟩, fun b hb => ⟨(hall b hb).1.2, (hall b hb).2⟩⟩, ?_, hnodup⟩
      rintro ⟨b, hb, hkey⟩
      exact (hall b hb).1.1 hkey
    · rintro ⟨⟨⟨hseen, hcanonical, htarget⟩, hall⟩, hfresh, hnodup⟩
      refine ⟨⟨hseen, hcanonical⟩, htarget, fun b hb => ⟨⟨fun hkey => hfresh ⟨b, hb, hkey⟩, (hall b hb).1⟩,
        (hall b hb).2⟩, hnodup⟩

theorem unique_of_check (h : p.check = .ok ()) : p.Unique := by
  simp only [AuthorizationPolicyBundle.check, uniqueBy, bind_eq_ok, exists_unit, raiseIf_eq_ok, not_not,
    checkAliases_eq_ok] at h
  obtain ⟨-, -, -, -, -, -, -, hprincipals, hclients, hrepositories, -, htargets, hbindings, -, ⟨hall, haliases⟩, -⟩ := h
  exact ⟨hprincipals, hclients, hrepositories, htargets, hbindings, haliases, fun a ha => (hall a ha).2.2⟩

end Policies

section Soundness

variable {p : AuthorizationPolicyBundle} {r : AuthorizationRequest} {decided : Int}

def RoleBinding.Covers (b : RoleBinding) (r : AuthorizationRequest) (repositoryId : Option Str) : Prop :=
  b.scope.kind = .global ∨ (b.scope.kind = .tenant ∧ b.scope.tenantId = r.tenantId) ∨
    (b.scope.kind = .repository ∧ b.scope.tenantId = r.tenantId ∧ b.scope.repositoryId = repositoryId)

structure RoleBinding.Grants (b : RoleBinding) (r : AuthorizationRequest) (repositoryId : Option Str) (decided : Int) :
    Prop where
  active : b.status = .active
  principal : b.principalId = r.principalId
  client : b.agentClientId = r.agentClientId
  started : ∃ starts, instant? b.validFrom = some starts ∧ starts ≤ decided
  unexpired : ∀ expiry, b.expiresAt = some expiry → ∃ ends, instant? expiry = some ends ∧ decided < ends
  permitted : r.permission ∈ b.permissions ∨ adminPermission ∈ b.permissions
  covers : b.Covers r repositoryId

theorem covers_iff {b : RoleBinding} {repositoryId : Option Str} :
    b.covers r repositoryId = true ↔ b.Covers r repositoryId := by
  unfold RoleBinding.covers RoleBinding.Covers
  cases b.scope.kind <;> simp

theorem authorizes_iff {b : RoleBinding} {repositoryId : Option Str} :
    b.authorizes r repositoryId decided = true ↔ b.Grants r repositoryId decided := by
  simp only [RoleBinding.authorizes, RoleBinding.inWindow, Bool.and_eq_true, decide_eq_true_eq, covers_iff,
    Option.any_eq_true, Option.all_eq_true]
  constructor
  · rintro ⟨⟨⟨⟨hactive, hprincipal, hclient⟩, hstart, hexpiry⟩, hpermission⟩, hcovers⟩
    exact ⟨hactive, hprincipal, hclient, hstart, hexpiry, hpermission, hcovers⟩
  · rintro ⟨hactive, hprincipal, hclient, hstart, hexpiry, hpermission, hcovers⟩
    exact ⟨⟨⟨⟨hactive, hprincipal, hclient⟩, hstart, hexpiry⟩, hpermission⟩, hcovers⟩

theorem mem_matchedBindings {repositoryId : Option Str} {i : Str} :
    i ∈ matchedBindings p r repositoryId decided ↔
      ∃ b ∈ p.roleBindings, b.bindingId = i ∧ b.Grants r repositoryId decided := by
  simp only [matchedBindings, (sortedStrings_perm _).mem_iff, List.mem_map, List.mem_filter, authorizes_iff]
  constructor
  · rintro ⟨b, ⟨hb, hgrants⟩, hi⟩
    exact ⟨b, hb, hi, hgrants⟩
  · rintro ⟨b, hb, hi, hgrants⟩
    exact ⟨b, ⟨hb, hgrants⟩, hi⟩

-- the repository id names a registered repository of the request's tenant, by its id or by an alias
def Resolved (p : AuthorizationPolicyBundle) (r : AuthorizationRequest) (reference repositoryId : Str) : Prop :=
  ∃ t ∈ p.repositoryTenants, some t.tenantId = r.tenantId ∧ t.repositoryId = repositoryId ∧
    (repositoryId = reference ∨
      ∃ a ∈ p.repositoryAliases, a.tenantId = t.tenantId ∧ a.aliasName = reference ∧ a.repositoryId = repositoryId)

structure Granted (p : AuthorizationPolicyBundle) (r : AuthorizationRequest) (decided : Int) (f : Finding) : Prop where
  principal : ∃ x ∈ p.principals, x.principalId = r.principalId ∧ x.status = .active ∧
    (x.tenantId = none ∨ x.tenantId = r.tenantId)
  client : ∃ x ∈ p.agentClients, x.agentClientId = r.agentClientId ∧ x.status = .active ∧
    (x.tenantId = none ∨ x.tenantId = r.tenantId)
  unnamed : r.repositoryReference = none → f.repositoryId = none
  resolved : ∀ reference, r.repositoryReference = some reference →
    ∃ repositoryId, f.repositoryId = some repositoryId ∧ Resolved p r reference repositoryId
  binding : ∃ b ∈ p.roleBindings, b.bindingId ∈ f.matched ∧ b.Grants r f.repositoryId decided

theorem bindingFinding_allowed {repositoryId : Option Str} (h : (bindingFinding p r repositoryId decided).reason = .allowed) :
    ∃ b ∈ p.roleBindings, b.bindingId ∈ matchedBindings p r repositoryId decided ∧ b.Grants r repositoryId decided := by
  have hmatched : matchedBindings p r repositoryId decided ≠ [] := by
    intro hnil
    rw [bindingFinding, hnil] at h
    cases h
  obtain ⟨i, hi⟩ := List.exists_mem_of_ne_nil _ hmatched
  obtain ⟨b, hb, rfl, hgrants⟩ := mem_matchedBindings.mp hi
  exact ⟨b, hb, hi, hgrants⟩

theorem target_of_keyed {repositoryId tenant : Str}
    (h : (p.target? repositoryId).map RepositoryTenantBinding.tenantId = some tenant) :
    ∃ t ∈ p.repositoryTenants, t.repositoryId = repositoryId ∧ t.tenantId = tenant := by
  obtain ⟨t, ht, htenant⟩ := Option.map_eq_some_iff.mp h
  have hkey := List.find?_some ht
  exact ⟨t, List.mem_of_find?_eq_some ht, of_decide_eq_true hkey, htenant⟩

theorem resolved_of_resolve {reference repositoryId : Str} (hreference : r.repositoryReference = some reference)
    (h : resolveRepository p r = some repositoryId)
    (htenant : (p.target? repositoryId).map RepositoryTenantBinding.tenantId = r.tenantId) :
    Resolved p r reference repositoryId := by
  unfold resolveRepository at h
  split at h
  · rename_i t hfound
    obtain rfl := Option.some.inj h
    have hkey := List.find?_some hfound
    rw [decide_eq_true_eq, hreference] at hkey
    exact ⟨t, List.mem_of_find?_eq_some hfound, hkey.1, rfl, .inl (Option.some.inj hkey.2)⟩
  · obtain ⟨a, hfound, rfl⟩ := Option.map_eq_some_iff.mp h
    have hkey := List.find?_some hfound
    rw [decide_eq_true_eq, hreference] at hkey
    rw [← hkey.1] at htenant
    obtain ⟨t, ht, hid, hsame⟩ := target_of_keyed htenant
    exact ⟨t, ht, by rw [hsame, hkey.1], hid, .inr ⟨a, List.mem_of_find?_eq_some hfound, hsame.symm,
      Option.some.inj hkey.2, rfl⟩⟩

theorem targetFinding_allowed (h : (targetFinding p r decided).reason = .allowed) :
    (r.repositoryReference = none ∧ targetFinding p r decided = bindingFinding p r none decided) ∨
      ∃ reference repositoryId, r.repositoryReference = some reference ∧ Resolved p r reference repositoryId ∧
        targetFinding p r decided = bindingFinding p r (some repositoryId) decided := by
  unfold targetFinding at h ⊢
  split at h
  · rename_i hreference
    exact .inl ⟨hreference, rfl⟩
  · rename_i reference hreference
    split at h
    · cases h
    · rename_i repositoryId hresolve
      split at h
      · cases h
      · rename_i htenant
        rw [if_neg htenant]
        exact .inr ⟨reference, repositoryId, hreference, resolved_of_resolve hreference hresolve (not_not.mp htenant), rfl⟩

theorem tenantMismatch_eq_false {bound requested : Option Str} :
    tenantMismatch bound requested = false ↔ bound = none ∨ bound = requested := by
  rw [tenantMismatch, decide_eq_false_iff_not]
  tauto

theorem refusal_eq_none {principal : Option PrincipalIdentity} {client : Option AgentClientIdentity}
    {tenantId : Option Str} :
    refusal principal client tenantId = none ↔
      (∃ x, principal = some x ∧ x.status = .active ∧ (x.tenantId = none ∨ x.tenantId = tenantId)) ∧
        ∃ x, client = some x ∧ x.status = .active ∧ (x.tenantId = none ∨ x.tenantId = tenantId) := by
  unfold refusal
  split
  · simp
  · split
    · simp_all
    · split
      · simp
      · split
        · simp_all
        · split
          · rename_i hbound
            have hnot := tenantMismatch_eq_false.not.mp (Bool.not_eq_false _ ▸ hbound)
            simp [hnot]
          · split
            · rename_i hbound
              have hnot := tenantMismatch_eq_false.not.mp (Bool.not_eq_false _ ▸ hbound)
              simp [hnot]
            · simp_all [tenantMismatch_eq_false]

theorem refusal_ne_allowed {principal : Option PrincipalIdentity} {client : Option AgentClientIdentity}
    {tenantId : Option Str} : refusal principal client tenantId ≠ some .allowed := by
  unfold refusal
  repeat' split
  all_goals simp

theorem evaluate_granted (h : (evaluate p r decided).reason = .allowed) :
    Granted p r decided (evaluate p r decided) := by
  unfold evaluate at h ⊢
  split at h
  · rename_i reason hrefusal
    obtain rfl : reason = .allowed := h
    exact absurd hrefusal refusal_ne_allowed
  · rename_i hrefusal
    obtain ⟨⟨principal, hprincipal, hactive, hbound⟩, client, hclient, hclientActive, hclientBound⟩ :=
      refusal_eq_none.mp hrefusal
    have hkey := List.find?_some hprincipal
    have hclientKey := List.find?_some hclient
    rcases targetFinding_allowed h with ⟨hreference, hfinding⟩ | ⟨reference, repositoryId, hreference, hresolved, hfinding⟩
    · rw [hfinding] at h ⊢
      exact ⟨⟨principal, List.mem_of_find?_eq_some hprincipal, of_decide_eq_true hkey, hactive, hbound⟩,
        ⟨client, List.mem_of_find?_eq_some hclient, of_decide_eq_true hclientKey, hclientActive, hclientBound⟩,
        fun _ => rfl, fun _ hsome => absurd (hreference ▸ hsome) (by simp), bindingFinding_allowed h⟩
    · rw [hfinding] at h ⊢
      refine ⟨⟨principal, List.mem_of_find?_eq_some hprincipal, of_decide_eq_true hkey, hactive, hbound⟩,
        ⟨client, List.mem_of_find?_eq_some hclient, of_decide_eq_true hclientKey, hclientActive, hclientBound⟩,
        fun hnone => absurd (hreference ▸ hnone) (by simp), fun reference' hsome => ?_, bindingFinding_allowed h⟩
      obtain rfl := Option.some.inj (hreference.symm.trans hsome)
      exact ⟨repositoryId, rfl, hresolved⟩

end Soundness

section Isolation

variable {p q : AuthorizationPolicyBundle} {r : AuthorizationRequest} {tenant : Str}

-- the two policies hold the same records of the tenant and of no tenant
structure SameView (tenant : Str) (p q : AuthorizationPolicyBundle) : Prop where
  principals : ∀ x : PrincipalIdentity, x.tenantId = none ∨ x.tenantId = some tenant →
    (x ∈ p.principals ↔ x ∈ q.principals)
  agentClients : ∀ x : AgentClientIdentity, x.tenantId = none ∨ x.tenantId = some tenant →
    (x ∈ p.agentClients ↔ x ∈ q.agentClients)
  repositoryTenants : ∀ t : RepositoryTenantBinding, t.tenantId = tenant →
    (t ∈ p.repositoryTenants ↔ t ∈ q.repositoryTenants)
  repositoryAliases : ∀ a : RepositoryAlias, a.tenantId = tenant → (a ∈ p.repositoryAliases ↔ a ∈ q.repositoryAliases)
  roleBindings : ∀ b : RoleBinding, b.scope.kind = .global ∨ b.scope.tenantId = some tenant →
    (b ∈ p.roleBindings ↔ b ∈ q.roleBindings)

-- the request's own principal or client is on record for another tenant
def Foreign (tenant : Str) (p : AuthorizationPolicyBundle) (r : AuthorizationRequest) : Prop :=
  (∃ x ∈ p.principals, x.principalId = r.principalId ∧ x.tenantId ≠ none ∧ x.tenantId ≠ some tenant) ∨
    ∃ x ∈ p.agentClients, x.agentClientId = r.agentClientId ∧ x.tenantId ≠ none ∧ x.tenantId ≠ some tenant

theorem find_congr {α : Type} {l m : List α} {holds : α → Bool} (hsame : ∀ a, holds a = true → (a ∈ l ↔ a ∈ m))
    (hone : ∀ a b, holds a = true → holds b = true → a ∈ l → b ∈ l → a = b) : l.find? holds = m.find? holds := by
  cases hl : l.find? holds with
  | none =>
    refine (List.find?_eq_none.mpr fun a ha hholds => ?_).symm
    exact List.find?_eq_none.mp hl a ((hsame a hholds).mpr ha) hholds
  | some a =>
    have hholds := List.find?_some hl
    have hmem := List.mem_of_find?_eq_some hl
    cases hm : m.find? holds with
    | none => exact absurd hholds (List.find?_eq_none.mp hm a ((hsame a hholds).mp hmem))
    | some b =>
      have hb := List.find?_some hm
      rw [hone a b hholds hb hmem ((hsame b hb).mpr (List.mem_of_find?_eq_some hm))]

variable (hp : p.Unique) (hq : q.Unique) (hview : SameView tenant p q) (htenant : r.tenantId = some tenant)

include hp

theorem resolve_registered {repositoryId : Str} (h : resolveRepository p r = some repositoryId) :
    (p.target? repositoryId).map RepositoryTenantBinding.tenantId = r.tenantId := by
  unfold resolveRepository at h
  split at h
  · rename_i t hfound
    obtain rfl := Option.some.inj h
    have hkey := List.find?_some hfound
    rw [decide_eq_true_eq] at hkey
    have htarget : p.target? t.repositoryId = some t :=
      (keyed_eq_some hp.repositoryTenants).mpr ⟨List.mem_of_find?_eq_some hfound, rfl⟩
    rw [htarget, Option.map_some, hkey.1]
  · obtain ⟨a, hfound, rfl⟩ := Option.map_eq_some_iff.mp h
    have hkey := List.find?_some hfound
    rw [decide_eq_true_eq] at hkey
    rw [hp.targets a (List.mem_of_find?_eq_some hfound), hkey.1]

theorem resolve_congr (htargets : ∀ t : RepositoryTenantBinding, some t.tenantId = r.tenantId →
      (t ∈ p.repositoryTenants ↔ t ∈ q.repositoryTenants))
    (haliases : ∀ a : RepositoryAlias, some a.tenantId = r.tenantId →
      (a ∈ p.repositoryAliases ↔ a ∈ q.repositoryAliases)) :
    resolveRepository p r = resolveRepository q r := by
  have htarget : p.repositoryTenants.find? (fun t => decide (some t.tenantId = r.tenantId ∧
      some t.repositoryId = r.repositoryReference)) = q.repositoryTenants.find? (fun t =>
        decide (some t.tenantId = r.tenantId ∧ some t.repositoryId = r.repositoryReference)) := by
    apply find_congr
    · intro t ht
      exact htargets t (of_decide_eq_true ht).1
    · intro t u ht hu htmem humem
      rw [decide_eq_true_eq] at ht hu
      exact List.inj_on_of_nodup_map hp.repositoryTenants htmem humem (Option.some.inj (ht.2.trans hu.2.symm))
  have halias : p.repositoryAliases.find? (fun a => decide (some a.tenantId = r.tenantId ∧
      some a.aliasName = r.repositoryReference)) = q.repositoryAliases.find? (fun a =>
        decide (some a.tenantId = r.tenantId ∧ some a.aliasName = r.repositoryReference)) := by
    apply find_congr
    · intro a ha
      exact haliases a (of_decide_eq_true ha).1
    · intro a b ha hb hamem hbmem
      rw [decide_eq_true_eq] at ha hb
      exact List.inj_on_of_nodup_map hp.aliases hamem hbmem
        (Prod.ext (Option.some.inj (ha.1.trans hb.1.symm)) (Option.some.inj (ha.2.trans hb.2.symm)))
  rw [resolveRepository, resolveRepository, htarget, halias]

include hview htenant

include hq

theorem matched_congr (repositoryId : Option Str) (decided : Int) :
    matchedBindings p r repositoryId decided = matchedBindings q r repositoryId decided := by
  have hnodup {u : AuthorizationPolicyBundle} (hu : u.Unique) :
      ((u.roleBindings.filter (fun b => b.authorizes r repositoryId decided)).map RoleBinding.bindingId).Nodup :=
    hu.roleBindings.sublist (List.filter_sublist.map _)
  apply sortedStrings_eq_of_perm
  refine (List.perm_ext_iff_of_nodup (hnodup hp) (hnodup hq)).mpr fun i => ?_
  simp only [List.mem_map, List.mem_filter, authorizes_iff]
  refine exists_congr fun b => and_congr_left fun _ => and_congr_left fun hgrants => hview.roleBindings b ?_
  rcases hgrants.covers with hglobal | ⟨-, hscope⟩ | ⟨-, hscope, -⟩
  · exact .inl hglobal
  · exact .inr (hscope.trans htenant)
  · exact .inr (hscope.trans htenant)

theorem targetFinding_congr (decided : Int) : targetFinding p r decided = targetFinding q r decided := by
  have hresolve : resolveRepository p r = resolveRepository q r :=
    resolve_congr hp (fun t ht => hview.repositoryTenants t (Option.some.inj (ht.trans htenant)))
      (fun a ha => hview.repositoryAliases a (Option.some.inj (ha.trans htenant)))
  unfold targetFinding
  cases hreference : r.repositoryReference with
  | none =>
    dsimp only
    rw [bindingFinding, bindingFinding, matched_congr hp hq hview htenant]
  | some reference =>
    dsimp only
    rw [hresolve]
    cases hfound : resolveRepository q r with
    | none => rfl
    | some repositoryId =>
      dsimp only
      rw [if_neg (not_not.mpr (resolve_registered hp (hresolve.trans hfound))),
        if_neg (not_not.mpr (resolve_registered hq hfound)), bindingFinding, bindingFinding,
        matched_congr hp hq hview htenant]

omit htenant in
theorem principal_congr {x : PrincipalIdentity} (hown : x.tenantId = none ∨ x.tenantId = some tenant) {i : Str} :
    p.principal? i = some x ↔ q.principal? i = some x := by
  rw [AuthorizationPolicyBundle.principal?, AuthorizationPolicyBundle.principal?, keyed_eq_some hp.principals,
    keyed_eq_some hq.principals, hview.principals x hown]

omit htenant in
theorem client_congr {x : AgentClientIdentity} (hown : x.tenantId = none ∨ x.tenantId = some tenant) {i : Str} :
    p.client? i = some x ↔ q.client? i = some x := by
  rw [AuthorizationPolicyBundle.client?, AuthorizationPolicyBundle.client?, keyed_eq_some hp.agentClients,
    keyed_eq_some hq.agentClients, hview.agentClients x hown]

theorem refusal_congr : refusal (p.principal? r.principalId) (p.client? r.agentClientId) r.tenantId = none ↔
    refusal (q.principal? r.principalId) (q.client? r.agentClientId) r.tenantId = none := by
  rw [refusal_eq_none, refusal_eq_none, htenant]
  refine and_congr (exists_congr fun x => ?_) (exists_congr fun x => ?_)
  · exact and_congr_left fun hx => principal_congr hp hq hview hx.2
  · exact and_congr_left fun hx => client_congr hp hq hview hx.2

omit htenant in
theorem identities_congr (hpown : ¬Foreign tenant p r) (hqown : ¬Foreign tenant q r) :
    p.principal? r.principalId = q.principal? r.principalId ∧ p.client? r.agentClientId = q.client? r.agentClientId := by
  simp only [Foreign, not_or, not_exists, not_and, not_not] at hpown hqown
  constructor
  · apply Option.ext
    intro x
    constructor
    · intro h
      have hmem := (keyed_eq_some hp.principals).mp h
      exact (principal_congr hp hq hview (or_iff_not_imp_left.mpr (hpown.1 x hmem.1 hmem.2))).mp h
    · intro h
      have hmem := (keyed_eq_some hq.principals).mp h
      exact (principal_congr hp hq hview (or_iff_not_imp_left.mpr (hqown.1 x hmem.1 hmem.2))).mpr h
  · apply Option.ext
    intro x
    constructor
    · intro h
      have hmem := (keyed_eq_some hp.agentClients).mp h
      exact (client_congr hp hq hview (or_iff_not_imp_left.mpr (hpown.2 x hmem.1 hmem.2))).mp h
    · intro h
      have hmem := (keyed_eq_some hq.agentClients).mp h
      exact (client_congr hp hq hview (or_iff_not_imp_left.mpr (hqown.2 x hmem.1 hmem.2))).mpr h

theorem evaluate_isolated (decided : Int) :
    (evaluate p r decided).repositoryId = (evaluate q r decided).repositoryId ∧
      (evaluate p r decided).matched = (evaluate q r decided).matched ∧
        ((evaluate p r decided).reason = .allowed ↔ (evaluate q r decided).reason = .allowed) ∧
          (¬Foreign tenant p r → ¬Foreign tenant q r → (evaluate p r decided).reason = (evaluate q r decided).reason) := by
  have hnone := refusal_congr hp hq hview htenant
  unfold evaluate
  cases hrefused : refusal (p.principal? r.principalId) (p.client? r.agentClientId) r.tenantId with
  | none =>
    rw [hnone.mp hrefused]
    dsimp only
    rw [targetFinding_congr hp hq hview htenant]
    exact ⟨rfl, rfl, Iff.rfl, fun _ _ => rfl⟩
  | some reason =>
    cases hother : refusal (q.principal? r.principalId) (q.client? r.agentClientId) r.tenantId with
    | none =>
      rw [hnone.mpr hother] at hrefused
      cases hrefused
    | some reason' =>
      refine ⟨rfl, rfl, ?_, fun hpown hqown => ?_⟩
      · constructor
        · rintro rfl
          exact absurd hrefused refusal_ne_allowed
        · rintro rfl
          exact absurd hother refusal_ne_allowed
      · obtain ⟨hprincipal, hclient⟩ := identities_congr hp hq hview hpown hqown
        rw [hprincipal, hclient, hother] at hrefused
        exact (Option.some.inj hrefused).symm

end Isolation

end Authorization

end TraceBackedMemory
