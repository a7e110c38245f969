import TraceBackedMemory.Authorization.Loading
import TraceBackedMemory.Authorization.OrderFree
import TraceBackedMemory.Foundation.JsonLimits

namespace TraceBackedMemory

open Text Raising OrderBy Json

namespace Authorization

open Migration (AuthorizationScope CanonicalRepository ScopeKind RepositoryProvider Names names_of_good repositoryNames
  scopeNames jsonStrings nullable sortedStrings objects attributeFields named_text orderBy_idem sortedStrings_perm)

section Reads

variable {entries : Fields} (hkeys : (entries.map Prod.fst).Nodup)

theorem strictObject_sorted {names : List Str} (h : Names entries names) (label : String) :
    strictObject label names (sorted entries) = .ok (sorted entries) := by
  have hkeys (name : Str) : name ∈ (sorted entries).map Prod.fst ↔ name ∈ names := by rw [mem_keys_sorted, h.keys]
  have hknown : firstOutside names ((sorted entries).map Prod.fst) = none :=
    firstOutside_eq_none.mpr fun name hname => (hkeys name).mp hname
  have hpresent : firstOutside ((sorted entries).map Prod.fst) names = none :=
    firstOutside_eq_none.mpr fun name hname => (hkeys name).mpr hname
  rw [strictObject, hknown]
  dsimp only
  rw [hpresent]

theorem member_text {α : Type} {values : List α} {text : α → Str} {a : α} (ha : a ∈ values)
    (hinj : ∀ b, text b = text a → b = a) (message : String) : member values text (text a) message = .ok a := by
  rw [member, demand_eq_ok]
  cases hfound : values.find? (fun b => decide (text b = text a)) with
  | none => exact absurd (List.find?_eq_none.mp hfound a ha) (by simp)
  | some b =>
    have htext := List.find?_some hfound
    rw [decide_eq_true_eq] at htext
    rw [hinj b htext]

theorem mapM_map {α β γ : Type} {f : α → β} {g : β → Option γ} {c : α → γ} {l : List α} (h : ∀ a ∈ l, g (f a) = some (c a)) :
    (l.map f).mapM g = some (l.map c) := by
  induction l with
  | nil => rfl
  | cons a l ih =>
    rw [List.map_cons, List.mapM_cons, h a List.mem_cons_self, ih fun b hb => h b (List.mem_cons_of_mem _ hb)]
    rfl

include hkeys

theorem stringAt_sorted (i : Nat) (name : String) {s : Str} (h : entries[i]? = some (lit name, .str s)) :
    stringAt (sorted entries) name = .ok s := by
  rw [stringAt, valueAt_sorted hkeys i _ _ h]
  rfl

theorem optionalStringAt_sorted (i : Nat) (name : String) {s : Option Str}
    (h : entries[i]? = some (lit name, nullable s)) : optionalStringAt (sorted entries) name = .ok s := by
  rw [optionalStringAt, valueAt_sorted hkeys i _ _ h]
  cases s <;> rfl

theorem stringTupleAt_sorted (i : Nat) (name : String) {l : List Str}
    (h : entries[i]? = some (lit name, jsonStrings l)) : stringTupleAt (sorted entries) name = .ok l := by
  have hread : (l.map Json.str).mapM text? = some (l.map id) := mapM_map fun _ _ => rfl
  rw [stringTupleAt, valueAt_sorted hkeys i _ _ h, jsonStrings, sortKeys_strings]
  dsimp only
  rw [hread, List.map_id]
  rfl

theorem recordsAt_sorted {α : Type} {parse : Fields → Except GateError α} {record : α → Fields} {c : α → α} (i : Nat)
    (name : String) {l : List α} (hlength : l.length ≤ maxRegistryItems)
    (hread : ∀ a ∈ l, parse (sorted (record a)) = .ok (c a))
    (h : entries[i]? = some (lit name, objects record l)) :
    recordsAt parse (sorted entries) name = .ok (l.map c) := by
  have hfields : (l.map (fun a => Json.obj (sorted (record a)))).mapM fields? =
      some (l.map (fun a => sorted (record a))) := mapM_map fun _ _ => rfl
  have hparsed : collect parse (l.map (fun a => sorted (record a))) = .ok (l.map c) := by
    clear hlength h hfields
    induction l with
    | nil => rfl
    | cons a l ih =>
      rw [List.map_cons, collect, hread a List.mem_cons_self, ih fun b hb => hread b (List.mem_cons_of_mem _ hb)]
      rfl
  rw [recordsAt, objectListAt, valueAt_sorted hkeys i _ _ h, objects, sortKeys_records]
  dsimp only
  rw [raiseIf_of_not (by rw [List.length_map]; omega), hfields]
  exact hparsed

end Reads

section Records

theorem IdentityStatus.text_injective {a b : IdentityStatus} (h : a.text = b.text) : a = b := by
  revert h
  cases a <;> cases b <;> decide

theorem identityStatus_mem (a : IdentityStatus) : a ∈ identityStatuses := by
  cases a <;> decide

theorem BindingStatus.text_injective {a b : BindingStatus} (h : a.text = b.text) : a = b := by
  revert h
  cases a <;> cases b <;> decide

theorem bindingStatus_mem (a : BindingStatus) : a ∈ bindingStatuses := by
  cases a <;> decide

theorem AgentClientKind.text_injective {a b : AgentClientKind} (h : a.text = b.text) : a = b := by
  revert h
  cases a <;> cases b <;> decide

theorem agentClientKind_mem (a : AgentClientKind) : a ∈ agentClientKinds := by
  cases a <;> decide

theorem PrincipalIdentity.names (p : PrincipalIdentity) : Names p.entries principalNames := names_of_good (by decide) rfl

theorem AgentClientIdentity.names (c : AgentClientIdentity) : Names c.entries clientNames := names_of_good (by decide) rfl

theorem RepositoryTenantBinding.names (b : RepositoryTenantBinding) : Names b.entries repositoryTenantNames :=
  names_of_good (by decide) rfl

theorem RepositoryAlias.names (a : RepositoryAlias) : Names a.entries aliasNames := names_of_good (by decide) rfl

theorem parsePrincipal_sorted {p : PrincipalIdentity} (h : p.check = .ok ()) :
    parsePrincipal (sorted p.entries) = .ok (id p) := by
  have hn := p.names
  have hk := hn.fields_nodup
  have hstatus := member_text (identityStatus_mem p.status) (fun _ => IdentityStatus.text_injective)
    "principal status must be active or disabled"
  have hcheck : (PrincipalIdentity.mk p.principalId p.issuer p.subjectHash p.tenantId .active).check = .ok () := h
  simp only [parsePrincipal, strictObject_sorted hn, stringAt_sorted hk 0 "principal_id" rfl,
    stringAt_sorted hk 1 "issuer" rfl, stringAt_sorted hk 2 "subject_hash" rfl,
    optionalStringAt_sorted hk 3 "tenant_id" rfl, stringAt_sorted hk 4 "status" rfl, hstatus, bind, Except.bind, hcheck]
  rfl

theorem parseClient_sorted {c : AgentClientIdentity} (h : c.check = .ok ()) :
    parseClient (sorted c.entries) = .ok (id c) := by
  have hn := c.names
  have hk := hn.fields_nodup
  have hkind := member_text (agentClientKind_mem c.clientKind) (fun _ => AgentClientKind.text_injective)
    "client_kind must be a supported agent client kind"
  have hstatus := member_text (identityStatus_mem c.status) (fun _ => IdentityStatus.text_injective)
    "agent client status must be active or disabled"
  have hcheck : (AgentClientIdentity.mk c.agentClientId c.tenantId .localAgent .active).check = .ok () := h
  simp only [parseClient, strictObject_sorted hn, stringAt_sorted hk 0 "agent_client_id" rfl,
    optionalStringAt_sorted hk 1 "tenant_id" rfl, stringAt_sorted hk 2 "client_kind" rfl,
    stringAt_sorted hk 3 "status" rfl, hkind, hstatus, bind, Except.bind, hcheck]
  rfl

theorem parseRepositoryTenant_sorted {b : RepositoryTenantBinding} (h : b.check = .ok ()) :
    parseRepositoryTenant (sorted b.entries) = .ok (id b) := by
  have hn := b.names
  have hk := hn.fields_nodup
  simp only [parseRepositoryTenant, strictObject_sorted hn, stringAt_sorted hk 0 "repository_id" rfl,
    stringAt_sorted hk 1 "tenant_id" rfl, bind, Except.bind, h]
  rfl

theorem parseAlias_sorted {a : RepositoryAlias} (h : a.check = .ok ()) :
    parseAlias (sorted a.entries) = .ok (id a) := by
  have hn := a.names
  have hk := hn.fields_nodup
  simp only [parseAlias, strictObject_sorted hn, stringAt_sorted hk 0 "alias" rfl,
    stringAt_sorted hk 1 "repository_id" rfl, stringAt_sorted hk 2 "tenant_id" rfl,
    stringAt_sorted hk 3 "source" rfl, bind, Except.bind, h]
  rfl

theorem parseRepository_sorted {r : CanonicalRepository} (h : r.check = .ok ()) :
    parseRepository (sorted r.entries) = .ok r.canonical := by
  have hn := r.names
  have hk := hn.fields_nodup
  have hid : Migration.requiredIdentifier r.repositoryId (lit "repository_id") = .ok () := by
    simp only [Migration.CanonicalRepository.check, bind_eq_ok, exists_unit] at h
    exact h.1
  have hprovider := @named_text RepositoryProvider Migration.repositoryProviders RepositoryProvider.text r.provider
    r.provider.mem_all (fun q _ hq => Migration.RepositoryProvider.text_injective hq)
  have hcheck := Migration.CanonicalRepository.check_canonical.mpr h
  simp only [Migration.CanonicalRepository.canonical] at hcheck
  simp only [parseRepository, strictObject_sorted hn, stringAt_sorted hk 0 "repository_id" rfl,
    stringAt_sorted hk 1 "provider" rfl, stringAt_sorted hk 2 "provider_repository_id" rfl,
    stringAt_sorted hk 3 "canonical_locator_hash" rfl, stringAt_sorted hk 4 "display_name" rfl,
    stringTupleAt_sorted hk 5 "legacy_aliases" rfl, hid, hprovider, bind, Except.bind, hcheck]
  rfl

end Records

section Bindings

theorem sorted_attributes (l : List (Str × Str)) : sorted (attributeFields l) = attributeFields l := by
  have hfields : sortFields (attributeFields l) = attributeFields l := by
    rw [sortFields_eq, attributeFields, List.map_map]
    rfl
  rw [sorted, hfields]
  apply orderBy_of_pairwise
  rw [attributeFields, List.pairwise_map]
  exact orderBy_pairwise Prod.fst l

theorem parseAttributes_sorted (l : List (Str × Str)) :
    parseAttributes (.obj (sorted (attributeFields l))) = .ok (orderBy Prod.fst l) := by
  have hread : (attributeFields l).mapM attribute? = some ((orderBy Prod.fst l).map id) := mapM_map fun _ _ => rfl
  rw [sorted_attributes, parseAttributes, hread, List.map_id]
  dsimp only [demand, bind, Except.bind]
  rw [orderBy_idem]
  rfl

theorem parseScope_sorted {s : AuthorizationScope} (h : s.check = .ok ()) :
    parseScope (.obj (sorted s.entries)) = .ok s.canonical := by
  have hn := s.names
  have hk := hn.fields_nodup
  have hfields := valueAt_sorted hk 3 (lit "attributes") (.obj (attributeFields s.attributes)) rfl
  have hkind := @named_text ScopeKind Migration.scopeKinds ScopeKind.text s.kind s.kind.mem_all
    (fun q _ hq => Migration.ScopeKind.text_injective hq)
  have hcheck := Migration.AuthorizationScope.check_canonical.mpr h
  simp only [Migration.AuthorizationScope.canonical] at hcheck
  simp only [parseScope, strictObject_sorted hn, hfields, sortKeys_obj, parseAttributes_sorted,
    stringAt_sorted hk 0 "kind" rfl, optionalStringAt_sorted hk 1 "tenant_id" rfl,
    optionalStringAt_sorted hk 2 "repository_id" rfl, hkind, bind, Except.bind, hcheck]
  rfl

theorem RoleBinding.names (b : RoleBinding) (validFrom : Str) (expiresAt : Option Str) :
    Names (b.entriesAt validFrom expiresAt) bindingNames := names_of_good (by decide) rfl

theorem permission_text (a : AuthorizationPermission) : permission? a.text = some a := by
  cases a <;> decide

theorem boundedOffset_isoformat (i : Nat) : boundedOffset (isoformat i) = true := by
  have hlast : (isoformat i).getLast? = some (cp 'Z') := by
    have hfraction : (fractionText (i % 1000000)).getLast? = some (cp 'Z') := by
      unfold fractionText
      split
      · rfl
      · rw [List.getLast?_append, List.getLast?_singleton]
        rfl
    rw [isoformat, List.getLast?_append, hfraction]
    rfl
  rw [boundedOffset, hlast]
  rfl

theorem timestamp_canonicalTime {value name : Str} {i : Int} (h : timestamp value name = .ok i)
    (hcanonical : CanonicalText (canonicalTime value)) : timestamp (canonicalTime value) name = .ok i := by
  have hbounded : boundedOffset (canonicalTime value) = true := by
    obtain ⟨j, -, htext⟩ := hcanonical
    rw [htext]
    exact boundedOffset_isoformat j
  rw [timestamp, demand_eq_ok] at h ⊢
  rw [hbounded, if_pos rfl, instant_canonicalTime]
  split at h
  · exact h
  · cases h

end Bindings

end Authorization

end TraceBackedMemory
