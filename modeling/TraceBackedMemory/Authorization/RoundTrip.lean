import TraceBackedMemory.Authorization.Decoding
import TraceBackedMemory.Migration.Totality

namespace TraceBackedMemory

open Text Raising OrderBy Json

namespace Authorization

open EventContract (TextHash loadsDocument decodeInput)

open Migration (AuthorizationScope CanonicalRepository Names names_of_good jsonStrings nullable sortedStrings objects
  attributeFields orderBy_idem sortedStrings_perm Ascii sound sound_lit sound_decimal)

section Times

structure RoleBinding.Dated (b : RoleBinding) : Prop where
  validFrom : canonicalRfc3339 b.validFrom = .ok (canonicalTime b.validFrom)
  expiresAt : ∀ expiry, b.expiresAt = some expiry → canonicalRfc3339 expiry = .ok (canonicalTime expiry)

def RoleBinding.canonicalEntries (b : RoleBinding) : Fields :=
  b.entriesAt (canonicalTime b.validFrom) (b.expiresAt.map canonicalTime)

theorem canonicalTime_of_ok {value text : Str} (h : canonicalRfc3339 value = .ok text) : canonicalTime value = text := by
  rw [canonicalTime, h]
  rfl

theorem canonicalText_canonicalTime {value : Str} (h : canonicalRfc3339 value = .ok (canonicalTime value)) :
    CanonicalText (canonicalTime value) := by
  simp only [canonicalRfc3339, bind_eq_ok, demand_eq_ok] at h
  obtain ⟨_, -, htext⟩ := h
  exact (utcText_eq_some htext).1

theorem optionalCanonical_dated {value : Option Str}
    (h : ∀ text, value = some text → canonicalRfc3339 text = .ok (canonicalTime text)) :
    optionalCanonical value = .ok (value.map canonicalTime) := by
  cases value with
  | none => rfl
  | some text =>
    rw [optionalCanonical, h text rfl]
    rfl

theorem RoleBinding.toDict_eq_ok {b : RoleBinding} {document : Json} :
    b.toDict = .ok document ↔ b.Dated ∧ document = .obj b.canonicalEntries := by
  constructor
  · intro h
    simp only [RoleBinding.toDict, bind_eq_ok, pure_eq_ok] at h
    obtain ⟨starts, hstarts, ends, hends, rfl⟩ := h
    have hstart := canonicalTime_of_ok hstarts
    have hdated : ∀ expiry, b.expiresAt = some expiry → canonicalRfc3339 expiry = .ok (canonicalTime expiry) := by
      intro expiry hexpiry
      rw [hexpiry] at hends
      simp only [optionalCanonical, bind_eq_ok, pure_eq_ok] at hends
      obtain ⟨text, htext, -⟩ := hends
      rw [canonicalTime_of_ok htext, htext]
    have hend : ends = b.expiresAt.map canonicalTime := by
      rw [optionalCanonical_dated hdated] at hends
      exact (Except.ok.inj hends).symm
    exact ⟨⟨by rw [hstart, hstarts], hdated⟩, by rw [RoleBinding.canonicalEntries, hstart, hend]⟩
  · rintro ⟨hdated, rfl⟩
    simp only [RoleBinding.toDict, hdated.validFrom, optionalCanonical_dated hdated.expiresAt, bind, Except.bind]
    rfl

def AuthorizationPolicyBundle.Dated (p : AuthorizationPolicyBundle) : Prop := ∀ b ∈ p.roleBindings, b.Dated

def AuthorizationPolicyBundle.canonicalEntries (p : AuthorizationPolicyBundle) : Fields :=
  p.entriesWith ((orderBy RoleBinding.bindingId p.roleBindings).map (fun b => .obj b.canonicalEntries))

theorem collect_bindings {l : List RoleBinding} {documents : List Json} :
    collect RoleBinding.toDict l = .ok documents ↔
      (∀ b ∈ l, b.Dated) ∧ documents = l.map (fun b => .obj b.canonicalEntries) := by
  induction l generalizing documents with
  | nil =>
    constructor
    · intro h
      cases h
      exact ⟨List.forall_mem_nil _, rfl⟩
    · rintro ⟨-, rfl⟩
      rfl
  | cons b l ih =>
    simp only [collect, bind_eq_ok, pure_eq_ok, RoleBinding.toDict_eq_ok, ih, List.forall_mem_cons, List.map_cons]
    constructor
    · rintro ⟨_, ⟨hb, rfl⟩, _, ⟨hl, rfl⟩, rfl⟩
      exact ⟨⟨hb, hl⟩, rfl⟩
    · rintro ⟨⟨hb, hl⟩, rfl⟩
      exact ⟨_, ⟨hb, rfl⟩, _, ⟨hl, rfl⟩, rfl⟩

theorem toDict_eq_ok {p : AuthorizationPolicyBundle} {document : Json} :
    p.toDict = .ok document ↔ p.Dated ∧ document = .obj p.canonicalEntries := by
  simp only [AuthorizationPolicyBundle.toDict, bind_eq_ok, pure_eq_ok, collect_bindings, mem_orderBy]
  constructor
  · rintro ⟨_, ⟨hdated, rfl⟩, rfl⟩
    exact ⟨hdated, rfl⟩
  · rintro ⟨hdated, rfl⟩
    exact ⟨_, ⟨hdated, rfl⟩, rfl⟩

end Times

section Bindings

theorem checkWindow_canonical {b : RoleBinding} (hdated : b.Dated) (h : checkWindow b.validFrom b.expiresAt = .ok ()) :
    checkWindow (canonicalTime b.validFrom) (b.expiresAt.map canonicalTime) = .ok () := by
  simp only [checkWindow, bind_eq_ok] at h ⊢
  obtain ⟨starts, hstarts, h⟩ := h
  refine ⟨starts, timestamp_canonicalTime hstarts (canonicalText_canonicalTime hdated.validFrom), ?_⟩
  cases hexpiry : b.expiresAt with
  | none => rfl
  | some expiry =>
    rw [hexpiry] at h
    simp only [Option.map_some, bind_eq_ok] at h ⊢
    obtain ⟨ends, hends, h⟩ := h
    exact ⟨ends, timestamp_canonicalTime hends (canonicalText_canonicalTime (hdated.expiresAt expiry hexpiry)), h⟩

theorem checkPermissions_perm {l m : List AuthorizationPermission} (hperm : l.Perm m) :
    checkPermissions l = .ok () ↔ checkPermissions m = .ok () := by
  have hnil : l = [] ↔ m = [] := by rw [← List.length_eq_zero_iff, hperm.length_eq, List.length_eq_zero_iff]
  simp only [checkPermissions, raiseIf_eq_ok, hnil, hperm.length_eq, hperm.nodup_iff]

theorem RoleBinding.check_canonical {b : RoleBinding} (hdated : b.Dated) (h : b.check = .ok ()) :
    b.canonical.check = .ok () := by
  have hmem (a : AuthorizationPermission) : a ∈ sortedPermissions b.permissions ↔ a ∈ b.permissions :=
    (sortedPermissions_perm b.permissions).mem_iff
  simp only [RoleBinding.check, bind_eq_ok, exists_unit, raiseIf_eq_ok] at h ⊢
  obtain ⟨hid, hprincipal, hclient, hrole, hpermissions, hwindow, hrepository, htenant, hadmin⟩ := h
  simp only [RoleBinding.canonical, Migration.AuthorizationScope.canonical, hmem]
  exact ⟨hid, hprincipal, hclient, hrole, (checkPermissions_perm (sortedPermissions_perm _)).mpr hpermissions,
    checkWindow_canonical hdated hwindow, hrepository, htenant, hadmin⟩

theorem parseBinding_sorted {b : RoleBinding} (hscope : b.scope.check = .ok ()) (h : b.check = .ok ())
    (hdated : b.Dated) : parseBinding (sorted b.canonicalEntries) = .ok b.canonical := by
  have hparts := h
  simp only [RoleBinding.check, bind_eq_ok, exists_unit] at hparts
  obtain ⟨hid, hprincipal, hclient, hrole, hpermissions, -⟩ := hparts
  have hn := b.names (canonicalTime b.validFrom) (b.expiresAt.map canonicalTime)
  have hk := hn.fields_nodup
  rw [← RoleBinding.canonicalEntries] at hn hk
  have hscopeAt := valueAt_sorted hk 4 (lit "scope") (.obj b.scope.entries) rfl
  have hread : ((sortedPermissions b.permissions).map AuthorizationPermission.text).mapM permission? =
      some ((sortedPermissions b.permissions).map id) := mapM_map fun a _ => permission_text a
  have hstatus := member_text (bindingStatus_mem b.status) (fun _ => BindingStatus.text_injective)
    "binding status must be active or revoked"
  have hcheckPermissions := (checkPermissions_perm (sortedPermissions_perm b.permissions)).mpr hpermissions
  have hcheck := RoleBinding.check_canonical hdated h
  simp only [RoleBinding.canonical] at hcheck
  simp only [parseBinding, strictObject_sorted hn, hscopeAt, sortKeys_obj, parseScope_sorted hscope,
    stringAt_sorted hk 0 "binding_id" rfl, stringAt_sorted hk 1 "principal_id" rfl,
    stringAt_sorted hk 2 "agent_client_id" rfl, stringAt_sorted hk 3 "role_name" rfl,
    stringTupleAt_sorted hk 5 "permissions" rfl, stringAt_sorted hk 6 "status" rfl,
    stringAt_sorted hk 7 "valid_from" rfl, optionalStringAt_sorted hk 8 "expires_at" rfl, hid, hprincipal, hclient,
    hrole, hread, List.map_id, demand, hcheckPermissions, hstatus, bind, Except.bind, hcheck]
  rfl

end Bindings

section Policies

variable {p : AuthorizationPolicyBundle}

theorem mem_map_canonical {α : Type} {k : α → Str} {c : α → α} (hc : ∀ a, k (c a) = k a) (o : α → Str) (l : List α)
    (i : Str) : i ∈ ((orderBy o l).map c).map k ↔ i ∈ l.map k := by
  have hkey : k ∘ c = k := funext hc
  rw [List.map_map, hkey]
  exact ((orderBy_perm o l).map k).mem_iff

theorem recordTuple_eq_ok {α : Type} {l : List α} {name : String} :
    recordTuple l name = .ok () ↔ l.length ≤ maxRegistryItems := by
  simp only [recordTuple, raiseIf_eq_ok, not_lt]

theorem check_canonical (h : p.check = .ok ()) : p.canonical.check = .ok () := by
  have hp := unique_of_check h
  have hrepositoryKey (a : CanonicalRepository) : a.canonical.repositoryId = a.repositoryId := rfl
  have hbindingKey (b : RoleBinding) : b.canonical.bindingId = b.bindingId := rfl
  simp only [AuthorizationPolicyBundle.check, recordTuple_eq_ok, uniqueBy, bind_eq_ok, exists_unit, raiseIf_eq_ok,
    not_not, checkAliases_eq_ok, checkEach_eq_ok, AuthorizationPolicyBundle.checkBinding] at h ⊢
  obtain ⟨hversion, h₁, h₂, h₃, h₄, h₅, h₆, hprincipals, hclients, hrepositories, hlegacy, htargets, hids, hsame,
    ⟨haliases, hnames⟩, hbindings⟩ := h
  have hlegacy' : ¬∃ r ∈ p.canonical.repositories, maxRegistryItems < r.legacyAliases.length := by
    rintro ⟨r, hr, hlong⟩
    obtain ⟨a, ha, rfl⟩ := List.mem_map.mp hr
    rw [Migration.CanonicalRepository.canonical, (sortedStrings_perm a.legacyAliases).length_eq] at hlong
    exact hlegacy ⟨a, mem_orderBy.mp ha, hlong⟩
  have hsame' : (∀ r ∈ p.canonical.repositories, r.repositoryId ∈
      p.canonical.repositoryTenants.map RepositoryTenantBinding.repositoryId) ∧
        ∀ t ∈ p.canonical.repositoryTenants, t.repositoryId ∈
          p.canonical.repositories.map CanonicalRepository.repositoryId := by
    constructor
    · intro r hr
      obtain ⟨a, ha, rfl⟩ := List.mem_map.mp hr
      exact ((orderBy_perm _ _).map _).mem_iff.mpr (hsame.1 a (mem_orderBy.mp ha))
    · intro t ht
      exact (mem_map_canonical hrepositoryKey _ _ _).mpr (hsame.2 t (mem_orderBy.mp ht))
  have hprincipalMem (i : Str) : i ∈ p.canonical.principals.map PrincipalIdentity.principalId ↔
      i ∈ p.principals.map PrincipalIdentity.principalId := ((orderBy_perm _ _).map _).mem_iff
  have hclientMem (i : Str) : i ∈ p.canonical.agentClients.map AgentClientIdentity.agentClientId ↔
      i ∈ p.agentClients.map AgentClientIdentity.agentClientId := ((orderBy_perm _ _).map _).mem_iff
  have htarget : p.canonical.target? = p.target? := funext (target_canonical hp)
  have hnodup {α : Type} {k : α → Str} {c : α → α} (hc : ∀ a, k (c a) = k a) (o : α → Str) {l : List α}
      (hl : (l.map k).Nodup) : (((orderBy o l).map c).map k).Nodup := by
    have hkey : k ∘ c = k := funext hc
    rw [List.map_map, hkey]
    exact ((orderBy_perm o l).map k).nodup_iff.mpr hl
  refine ⟨hversion, ?_, ?_, ?_, ?_, ?_, ?_, ((orderBy_perm _ _).map _).nodup_iff.mpr hprincipals,
    ((orderBy_perm _ _).map _).nodup_iff.mpr hclients, hnodup hrepositoryKey _ hrepositories, hlegacy',
    ((orderBy_perm _ _).map _).nodup_iff.mpr htargets, hnodup hbindingKey _ hids, hsame', ⟨?_, ?_⟩, ?_⟩
  · exact (length_orderBy _ _).trans_le h₁
  · exact (length_orderBy _ _).trans_le h₂
  · exact ((List.length_map _).trans (length_orderBy _ _)).trans_le h₃
  · exact (length_orderBy _ _).trans_le h₄
  · exact (length_orderBy _ _).trans_le h₅
  · exact ((List.length_map _).trans (length_orderBy _ _)).trans_le h₆
  · intro a ha
    obtain ⟨hseen, hcanonical, htargetOf⟩ := haliases a (mem_orderBy.mp ha)
    refine ⟨hseen, ?_, by rw [htarget, htargetOf]⟩
    rintro ⟨t, ht, hkey⟩
    exact hcanonical ⟨t, mem_orderBy.mp ht, hkey⟩
  · exact ((orderBy_perm _ _).map _).nodup_iff.mpr hnames
  · intro b hb
    obtain ⟨c, hc, rfl⟩ := List.mem_map.mp hb
    obtain ⟨hprincipal, hclient, hscope⟩ := hbindings c (mem_orderBy.mp hc)
    refine ⟨(hprincipalMem _).mpr hprincipal, (hclientMem _).mpr hclient, ?_⟩
    rw [htarget]
    exact hscope

theorem AuthorizationPolicyBundle.names (p : AuthorizationPolicyBundle) (bindings : List Json) :
    Names (p.entriesWith bindings) policyNames := names_of_good (by decide) rfl

theorem parse_canonicalEntries (hentries : p.checkEntries = .ok ()) (h : p.check = .ok ()) (hdated : p.Dated) :
    parseAuthorizationPolicy (sorted p.canonicalEntries) = .ok p.canonical := by
  have hlengths := h
  simp only [AuthorizationPolicyBundle.check, recordTuple_eq_ok, bind_eq_ok, exists_unit] at hlengths
  obtain ⟨-, h₁, h₂, h₃, h₄, h₅, h₆, -⟩ := hlengths
  simp only [AuthorizationPolicyBundle.checkEntries, bind_eq_ok, exists_unit, checkEach_eq_ok] at hentries
  obtain ⟨hprincipals, hclients, hrepositories, htenants, haliases, hscopes, hbindings⟩ := hentries
  have hn := p.names ((orderBy RoleBinding.bindingId p.roleBindings).map (fun b => .obj b.canonicalEntries))
  have hk := hn.fields_nodup
  rw [← AuthorizationPolicyBundle.canonicalEntries] at hn hk
  have hversion : ¬authorizationPolicyVersion ≠ authorizationPolicyVersion := not_not.mpr rfl
  have hplain {α : Type} (l : List α) : l.map id = l := List.map_id l
  have hcheck := check_canonical h
  simp only [AuthorizationPolicyBundle.canonical] at hcheck
  simp only [parseAuthorizationPolicy, strictObject_sorted hn, stringAt_sorted hk 0 "contract_version" rfl,
    stringAt_sorted hk 1 "policy_version" rfl,
    recordsAt_sorted hk 2 "principals" ((length_orderBy _ _).trans_le h₁)
      (fun a ha => parsePrincipal_sorted (hprincipals a (mem_orderBy.mp ha))) rfl,
    recordsAt_sorted hk 3 "agent_clients" ((length_orderBy _ _).trans_le h₂)
      (fun a ha => parseClient_sorted (hclients a (mem_orderBy.mp ha))) rfl,
    recordsAt_sorted hk 4 "repositories" ((length_orderBy _ _).trans_le h₃)
      (fun a ha => parseRepository_sorted (hrepositories a (mem_orderBy.mp ha))) rfl,
    recordsAt_sorted hk 5 "repository_tenants" ((length_orderBy _ _).trans_le h₄)
      (fun a ha => parseRepositoryTenant_sorted (htenants a (mem_orderBy.mp ha))) rfl,
    recordsAt_sorted hk 6 "repository_aliases" ((length_orderBy _ _).trans_le h₅)
      (fun a ha => parseAlias_sorted (haliases a (mem_orderBy.mp ha))) rfl,
    recordsAt_sorted hk 7 "role_bindings" ((length_orderBy _ _).trans_le h₆)
      (fun b hb => parseBinding_sorted (hscopes b (mem_orderBy.mp hb)) (hbindings b (mem_orderBy.mp hb))
        (hdated b (mem_orderBy.mp hb))) rfl,
    hplain, raiseIf_of_not hversion, bind, Except.bind, hcheck]
  rfl

end Policies

end Authorization

end TraceBackedMemory
