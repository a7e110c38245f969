import TraceBackedMemory.Authorization.RoundTrip

namespace TraceBackedMemory

open Text Raising OrderBy Json

namespace Authorization

open EventContract (TextHash DocumentPolicy loadsDocument decodeInput sampleTexts sampleFloats size_obj)

open Migration (AuthorizationScope CanonicalRepository Names names_of_good jsonStrings nullable sortedStrings objects
  attributeFields sortedStrings_perm ascii_of_digest ascii_of_instant sound sound_lit sound_decimal canonicalSha256)

section Texts

theorem encodes_of_identifier {value name : Str} (h : identifier value name = .ok ()) : Json.encodes value = true := by
  simp only [identifier, unicode, bind_eq_ok, exists_unit, raiseIf_eq_ok, Bool.not_eq_false] at h
  exact h.2

theorem encodes_of_metadata {value name : Str} (h : metadata value name = .ok ()) : Json.encodes value = true := by
  simp only [metadata, unicode, bind_eq_ok, exists_unit, raiseIf_eq_ok, Bool.not_eq_false] at h
  exact h.2

theorem encodes_of_digest {value name : Str} (h : digest value name = .ok ()) : Json.encodes value = true := by
  simp only [digest, raiseIf_eq_ok, Bool.not_eq_false] at h
  exact (ascii_of_digest h).utf8

theorem encodes_of_optional {value : Option Str} {name : Str} (h : optionalIdentifier value name = .ok ()) :
    ∀ v ∈ value, Json.encodes v = true := by
  rintro v rfl
  exact encodes_of_identifier h

theorem encodes_of_canonical {text : Str} (h : CanonicalText text) : Json.encodes text = true := by
  obtain ⟨i, -, -, hinstant⟩ := h.instant
  exact (ascii_of_instant (by rw [hinstant]; exact Option.some_ne_none _)).utf8

variable {depth : Nat}

theorem portable_nullable {o : Option Str} (h : ∀ s ∈ o, Json.encodes s = true) : Portable depth (nullable o) := by
  cases o with
  | none => exact portable_null
  | some s => exact portable_str (h s rfl)

theorem portable_record {fields : Fields} {names : List Str} {values : List Json} (hn : Names fields names)
    (hvalues : fields.map Prod.snd = values) (h : ∀ v ∈ values, Portable depth v) :
    Portable (depth + 1) (.obj fields) := by
  refine portable_obj hn.fields_nodup fun f hf => ⟨hn.texts f.1 (hn.keys ▸ List.mem_map_of_mem hf), h f.2 ?_⟩
  rw [← hvalues]
  exact List.mem_map_of_mem hf

theorem portable_objects {α : Type} {entries : α → Fields} {l : List α}
    (h : ∀ a ∈ l, Portable depth (.obj (entries a))) : Portable (depth + 1) (objects entries l) := by
  refine portable_arr fun v hv => ?_
  obtain ⟨a, ha, rfl⟩ := List.mem_map.mp hv
  exact h a ha

end Texts

section Records

theorem PrincipalIdentity.portable {p : PrincipalIdentity} (h : p.check = .ok ()) : Portable 3 (.obj p.entries) := by
  simp only [PrincipalIdentity.check, bind_eq_ok, exists_unit] at h
  obtain ⟨hid, hissuer, hsubject, htenant⟩ := h
  refine portable_record p.names rfl ?_
  simp only [List.map_cons, List.map_nil, PrincipalIdentity.entries, List.forall_mem_cons,
    List.not_mem_nil, false_implies, implies_true, and_true]
  exact ⟨portable_str (encodes_of_identifier hid), portable_str (encodes_of_metadata hissuer),
    portable_str (encodes_of_digest hsubject), portable_nullable (encodes_of_optional htenant),
    portable_str (by cases p.status <;> rfl)⟩

theorem AgentClientIdentity.portable {c : AgentClientIdentity} (h : c.check = .ok ()) :
    Portable 3 (.obj c.entries) := by
  simp only [AgentClientIdentity.check, bind_eq_ok, exists_unit] at h
  obtain ⟨hid, htenant⟩ := h
  refine portable_record c.names rfl ?_
  simp only [List.map_cons, List.map_nil, AgentClientIdentity.entries, List.forall_mem_cons,
    List.not_mem_nil, false_implies, implies_true, and_true]
  exact ⟨portable_str (encodes_of_identifier hid), portable_nullable (encodes_of_optional htenant),
    portable_str (by cases c.clientKind <;> rfl), portable_str (by cases c.status <;> rfl)⟩

theorem portable_repository {r : CanonicalRepository} (h : r.check = .ok ()) : Portable 3 (.obj r.entries) := by
  simp only [Migration.CanonicalRepository.check, bind_eq_ok, exists_unit, Migration.stringTuple_eq_ok] at h
  obtain ⟨hid, hprovided, hlocator, hdisplay, -, haliases, -⟩ := h
  refine portable_record r.names rfl ?_
  simp only [List.map_cons, List.map_nil, Migration.CanonicalRepository.entries, List.forall_mem_cons,
    List.not_mem_nil, false_implies, implies_true, and_true]
  refine ⟨portable_str (Migration.utf8_of_required hid), portable_str r.provider.utf8_text,
    portable_str (Migration.utf8_of_required hprovided), portable_str (Migration.utf8_of_digest hlocator),
    portable_str (Migration.utf8_of_required hdisplay), portable_strings fun s hs => ?_⟩
  exact Migration.utf8_of_required (haliases s ((sortedStrings_perm r.legacyAliases).mem_iff.mp hs))

theorem RepositoryTenantBinding.portable {b : RepositoryTenantBinding} (h : b.check = .ok ()) :
    Portable 3 (.obj b.entries) := by
  simp only [RepositoryTenantBinding.check, bind_eq_ok, exists_unit] at h
  refine portable_record b.names rfl ?_
  simp only [List.map_cons, List.map_nil, RepositoryTenantBinding.entries, List.forall_mem_cons,
    List.not_mem_nil, false_implies, implies_true, and_true]
  exact ⟨portable_str (encodes_of_identifier h.1), portable_str (encodes_of_identifier h.2)⟩

theorem RepositoryAlias.portable {a : RepositoryAlias} (h : a.check = .ok ()) : Portable 3 (.obj a.entries) := by
  simp only [RepositoryAlias.check, bind_eq_ok, exists_unit] at h
  obtain ⟨hname, hrepository, htenant, hsource⟩ := h
  refine portable_record a.names rfl ?_
  simp only [List.map_cons, List.map_nil, RepositoryAlias.entries, List.forall_mem_cons,
    List.not_mem_nil, false_implies, implies_true, and_true]
  exact ⟨portable_str (encodes_of_metadata hname), portable_str (encodes_of_identifier hrepository),
    portable_str (encodes_of_identifier htenant), portable_str (encodes_of_metadata hsource)⟩

theorem portable_attributes {s : AuthorizationScope} (h : s.check = .ok ()) :
    Portable 1 (.obj (attributeFields s.attributes)) := by
  have hnodup := attributes_of_scope h
  simp only [Migration.AuthorizationScope.check, bind_eq_ok, exists_unit, Migration.checkAttributes_eq_ok] at h
  obtain ⟨-, -, -, -, -, hattributes, -⟩ := h
  have hperm := orderBy_perm Prod.fst s.attributes
  have hkeys : (attributeFields s.attributes).map Prod.fst = (orderBy Prod.fst s.attributes).map Prod.fst := by
    rw [attributeFields, List.map_map]
    rfl
  refine portable_obj (hkeys ▸ (hperm.map Prod.fst).nodup_iff.mpr hnodup) fun field hf => ?_
  obtain ⟨a, ha, rfl⟩ := List.mem_map.mp hf
  obtain ⟨hvalue, hfield, -⟩ := hattributes a (hperm.mem_iff.mp ha)
  exact ⟨Migration.utf8_applicability hfield, portable_str (Migration.utf8_of_required hvalue)⟩

theorem portable_scope {s : AuthorizationScope} (h : s.check = .ok ()) : Portable 2 (.obj s.entries) := by
  have hattributes := portable_attributes h
  simp only [Migration.AuthorizationScope.check, bind_eq_ok, exists_unit] at h
  refine portable_record s.names rfl ?_
  simp only [List.map_cons, List.map_nil, Migration.AuthorizationScope.entries, List.forall_mem_cons,
    List.not_mem_nil, false_implies, implies_true, and_true]
  exact ⟨portable_str s.kind.utf8_text, portable_nullable (Migration.utf8_of_optional h.1),
    portable_nullable (Migration.utf8_of_optional h.2.1), hattributes⟩

theorem RoleBinding.portable {b : RoleBinding} (hscope : b.scope.check = .ok ()) (h : b.check = .ok ())
    (hdated : b.Dated) : Portable 3 (.obj b.canonicalEntries) := by
  simp only [RoleBinding.check, bind_eq_ok, exists_unit] at h
  obtain ⟨hid, hprincipal, hclient, hrole, -⟩ := h
  refine portable_record (b.names _ _) rfl ?_
  simp only [List.map_cons, List.map_nil, RoleBinding.canonicalEntries, RoleBinding.entriesAt, List.forall_mem_cons,
    List.not_mem_nil, false_implies, implies_true, and_true]
  refine ⟨portable_str (encodes_of_identifier hid), portable_str (encodes_of_identifier hprincipal),
    portable_str (encodes_of_identifier hclient), portable_str (encodes_of_metadata hrole), portable_scope hscope,
    portable_strings fun s hs => ?_, portable_str (by cases b.status <;> rfl),
    portable_str (encodes_of_canonical (canonicalText_canonicalTime hdated.validFrom)),
    portable_nullable fun text htext => ?_⟩
  · obtain ⟨a, -, rfl⟩ := List.mem_map.mp hs
    cases a <;> rfl
  · obtain ⟨expiry, hexpiry, rfl⟩ := Option.map_eq_some_iff.mp htext
    exact encodes_of_canonical (canonicalText_canonicalTime (hdated.expiresAt expiry hexpiry))

theorem portable_policy {p : AuthorizationPolicyBundle} (hentries : p.checkEntries = .ok ()) (h : p.check = .ok ())
    (hdated : p.Dated) : Portable 5 (.obj p.canonicalEntries) := by
  simp only [AuthorizationPolicyBundle.check, bind_eq_ok, exists_unit] at h
  simp only [AuthorizationPolicyBundle.checkEntries, bind_eq_ok, exists_unit, checkEach_eq_ok] at hentries
  obtain ⟨hprincipals, hclients, hrepositories, htenants, haliases, hscopes, hbindings⟩ := hentries
  refine portable_record (p.names _) rfl ?_
  simp only [List.map_cons, List.map_nil, AuthorizationPolicyBundle.canonicalEntries, AuthorizationPolicyBundle.entriesWith, List.forall_mem_cons,
    List.not_mem_nil, false_implies, implies_true, and_true]
  refine ⟨portable_str (by rfl), portable_str (encodes_of_metadata h.1),
    portable_objects fun a ha => PrincipalIdentity.portable (hprincipals a (mem_orderBy.mp ha)),
    portable_objects fun a ha => AgentClientIdentity.portable (hclients a (mem_orderBy.mp ha)),
    portable_objects fun a ha => portable_repository (hrepositories a (mem_orderBy.mp ha)),
    portable_objects fun a ha => RepositoryTenantBinding.portable (htenants a (mem_orderBy.mp ha)),
    portable_objects fun a ha => RepositoryAlias.portable (haliases a (mem_orderBy.mp ha)), portable_objects fun b hb => ?_⟩
  exact RoleBinding.portable (hscopes b (mem_orderBy.mp hb)) (hbindings b (mem_orderBy.mp hb))
    (hdated b (mem_orderBy.mp hb))

end Records

section Loads

variable {codec : FloatCodec}

def Fits (maxBytes : Nat) (text : Str) : Prop := ∃ bytes, encodedBytes text = some bytes ∧ bytes ≤ maxBytes

theorem loadsDocument_portable {policy : DocumentPolicy} {depth : Nat} {v w : Json} (h : Portable depth v)
    (hdepth : depth ≤ policy.bounds.maxDepth) :
    loadsDocument codec policy (.text (canonicalText codec.repr v)) = .ok w ↔
      Fits policy.maxBytes (canonicalText codec.repr v) ∧ size v ≤ policy.bounds.maxNodes ∧ w = sortKeys v := by
  have hdecode {s : Str} : decodeInput policy (.text (canonicalText codec.repr v)) = .ok s ↔
      Fits policy.maxBytes (canonicalText codec.repr v) ∧ s = canonicalText codec.repr v := by
    simp only [decodeInput, bind_eq_ok, exists_unit, demand_eq_ok, raiseIf_eq_ok, pure_eq_ok, not_lt, Fits]
    constructor
    · rintro ⟨bytes, hbytes, hbound, rfl⟩
      exact ⟨⟨bytes, hbytes, hbound⟩, rfl⟩
    · rintro ⟨⟨bytes, hbytes, hbound⟩, rfl⟩
      exact ⟨bytes, hbytes, hbound, rfl⟩
  simp only [loadsDocument, bind_eq_ok, hdecode]
  constructor
  · rintro ⟨s, ⟨hfits, rfl⟩, hparse⟩
    have hsize : size v ≤ policy.bounds.maxNodes := by
      refine (@Portable.loads_iff _ _ codec _ h hdepth).mp ?_
      cases hread : parseBoundedJson policy.bounds codec (canonicalText codec.repr v) with
      | error fault =>
        rw [hread] at hparse
        cases hparse
      | ok u => exact ⟨u, rfl⟩
    rw [h.loads hdepth hsize] at hparse
    cases hparse
    exact ⟨hfits, hsize, rfl⟩
  · rintro ⟨hfits, hsize, rfl⟩
    refine ⟨_, ⟨hfits, rfl⟩, ?_⟩
    rw [h.loads hdepth hsize]

theorem mapError_eq_ok {ε ε' α : Type} {f : ε → ε'} {x : Except ε α} {a : α} : x.mapError f = .ok a ↔ x = .ok a := by
  cases x with
  | error e =>
    constructor
    · intro h
      cases h
    · intro h
      cases h
  | ok b =>
    constructor
    · intro h
      cases h
      rfl
    · intro h
      cases h
      rfl

variable {p : AuthorizationPolicyBundle} {document : Json}

theorem loads_dumped (hentries : p.checkEntries = .ok ()) (h : p.check = .ok ()) (hdocument : p.toDict = .ok document)
    {q : AuthorizationPolicyBundle} :
    loadsAuthorizationPolicy codec (.text (canonicalText codec.repr document)) = .ok q ↔
      (Fits (1024 * 1024) (canonicalText codec.repr document) ∧ size document ≤ 25000) ∧ q = p.canonical := by
  obtain ⟨hdated, rfl⟩ := toDict_eq_ok.mp hdocument
  have hportable := portable_policy hentries h hdated
  have hparsed := parse_canonicalEntries hentries h hdated
  simp only [loadsAuthorizationPolicy, loadsJson, bind_eq_ok, mapError_eq_ok, demand_eq_ok,
    loadsDocument_portable hportable (by decide : 5 ≤ (authorizationDocument "authorization policy").bounds.maxDepth)]
  constructor
  · rintro ⟨fields, ⟨_, ⟨hfits, hsize, rfl⟩, hfields⟩, hread⟩
    cases hfields
    have hsame := hparsed.symm.trans hread
    exact ⟨⟨hfits, hsize⟩, (Except.ok.inj hsame).symm⟩
  · rintro ⟨⟨hfits, hsize⟩, rfl⟩
    exact ⟨_, ⟨_, ⟨hfits, hsize, rfl⟩, rfl⟩, hparsed⟩

end Loads

section Laws

variable (hash : TextHash) (codec : FloatCodec)

end Laws

section Samples

theorem identifier_eq_ok {value name : Str} : identifier value name = .ok () ↔ sound memoryIdMaxChars value = true := by
  simp only [identifier, unicode, bind_eq_ok, exists_unit, raiseIf_eq_ok, sound, Bool.and_eq_true, Bool.not_eq_true',
    decide_eq_true_eq, not_or, not_lt, Bool.not_eq_true, Bool.not_eq_false]

theorem metadata_eq_ok {value name : Str} :
    metadata value name = .ok () ↔ sound metadataValueMaxChars value = true := by
  simp only [metadata, unicode, bind_eq_ok, exists_unit, raiseIf_eq_ok, sound, Bool.and_eq_true, Bool.not_eq_true',
    decide_eq_true_eq, not_or, not_lt, Bool.not_eq_true, Bool.not_eq_false]

def samplePrincipal (id : Str) (tenantId : Option Str) : PrincipalIdentity :=
  ⟨id, lit "issuer", sampleDigest 'a', tenantId, .active⟩

theorem samplePrincipal_check {id : Str} (hid : sound memoryIdMaxChars id = true) {tenantId : Option Str}
    (htenant : ∀ v ∈ tenantId, sound memoryIdMaxChars v = true) : (samplePrincipal id tenantId).check = .ok () := by
  have hdigest : digest (sampleDigest 'a') (lit "subject_hash") = .ok () := raiseIf_of_not (by decide)
  have hoptional : optionalIdentifier tenantId (lit "tenant_id") = .ok () := by
    cases tenantId with
    | none => rfl
    | some v => exact identifier_eq_ok.mpr (htenant v rfl)
  simp only [PrincipalIdentity.check, samplePrincipal, identifier_eq_ok, metadata_eq_ok, bind_eq_ok, exists_unit]
  exact ⟨hid, sound_lit rfl, hdigest, hoptional⟩

def crowdedPolicy (count : Nat) : AuthorizationPolicyBundle :=
  ⟨lit "v1", (List.range count).map (fun n => samplePrincipal (decimal n) none), [], [], [], [], []⟩

variable {count : Nat}

theorem crowdedPolicy_valid (hcount : count ≤ maxRegistryItems) :
    (crowdedPolicy count).checkEntries = .ok () ∧ (crowdedPolicy count).check = .ok () := by
  have hprincipals : checkEach PrincipalIdentity.check (crowdedPolicy count).principals = .ok () := by
    rw [checkEach_eq_ok, crowdedPolicy, List.forall_mem_map]
    intro n hn
    have hbound : n < 10 ^ 6 := ((List.mem_range.mp hn).trans_le hcount).trans (by decide)
    exact samplePrincipal_check (sound_decimal hbound) (fun _ h => absurd h (Option.not_mem_none _))
  have hids : (crowdedPolicy count).principals.map PrincipalIdentity.principalId = (List.range count).map decimal := by
    rw [crowdedPolicy, List.map_map]
    rfl
  have hunique : uniqueBy PrincipalIdentity.principalId (crowdedPolicy count).principals "principal_id" = .ok () := by
    rw [uniqueBy, raiseIf_eq_ok, hids, not_not]
    exact List.nodup_range.map decimal_injective
  have htuple : recordTuple (crowdedPolicy count).principals "principals" = .ok () := by
    rw [recordTuple_eq_ok, crowdedPolicy, List.length_map, List.length_range]
    exact hcount
  constructor
  · simp only [AuthorizationPolicyBundle.checkEntries, hprincipals, bind_eq_ok, exists_unit, true_and]
    exact ⟨rfl, rfl, rfl, rfl, rfl, rfl⟩
  · simp only [AuthorizationPolicyBundle.check, htuple, hunique, bind_eq_ok, exists_unit, true_and]
    exact ⟨metadata_eq_ok.mpr (sound_lit rfl), rfl, rfl, rfl, rfl, rfl, rfl, rfl, rfl, rfl, rfl, rfl, rfl, rfl⟩

theorem toDict_crowdedPolicy : (crowdedPolicy count).toDict = .ok (.obj (crowdedPolicy count).canonicalEntries) :=
  toDict_eq_ok.mpr ⟨List.forall_mem_nil _, rfl⟩

theorem size_principal (p : PrincipalIdentity) : size (.obj p.entries) = 6 := by
  have htenant : size (nullable p.tenantId) = 1 := by cases p.tenantId <;> rfl
  simp only [PrincipalIdentity.entries, size, sizeFields, htenant]

theorem size_crowdedPolicy : 6 * count < size (.obj (crowdedPolicy count).canonicalEntries) := by
  have hlength : (orderBy PrincipalIdentity.principalId (crowdedPolicy count).principals).length = count := by
    rw [length_orderBy, crowdedPolicy, List.length_map, List.length_range]
  have hprincipals : size (objects PrincipalIdentity.entries
      (orderBy PrincipalIdentity.principalId (crowdedPolicy count).principals)) = 1 + count * 6 := by
    rw [objects, size, sizeItems_eq, List.map_map, Function.comp_def, List.map_congr_left (fun a _ => size_principal a),
      List.map_const', List.sum_replicate_nat, hlength]
  simp only [AuthorizationPolicyBundle.canonicalEntries, AuthorizationPolicyBundle.entriesWith, size_obj, List.map_cons,
    List.sum_cons, hprincipals]
  omega

theorem dumps_crowdedPolicy (codec : FloatCodec) : dumpsAuthorizationPolicy codec (crowdedPolicy count) =
    .ok (canonicalText codec.repr (.obj (crowdedPolicy count).canonicalEntries)) := by
  rw [dumpsAuthorizationPolicy, toDict_crowdedPolicy]
  rfl

end Samples

end Authorization

end TraceBackedMemory
