import TraceBackedMemory.Authorization.Reloading
import TraceBackedMemory.Replay.Artifacts

namespace TraceBackedMemory

open Text Raising OrderBy Json

namespace Authorization

open EventContract (TextHash sampleTexts sampleFloats)

open Migration (Names names_of_good jsonStrings nullable sortedStrings sortedStrings_perm sortedStrings_idem Encodes
  encodes_entries encodes_str encodes_nullable encodes_strings canonicalSha256 canonicalSha256_of_encodes sound sound_lit)

section Digests

variable {hash : TextHash} {codec : FloatCodec}

theorem encodes_of_portable {depth : Nat} {v : Json} (h : Portable depth v) : Encodes v :=
  ⟨shaped_imp (fun _ _ _ => rfl) (fun n hn => by cases n <;> exact hn) (fun _ _ => rfl) v h.shaped, h.clean⟩

theorem sha256_of_encodes {v : Json} (h : Encodes v) :
    ∃ text, canonicalSha256 hash codec v = .ok text ∧ validDigest text = true :=
  ⟨_, canonicalSha256_of_encodes h, (hash.canonical codec).validDigest_domain [] v⟩

end Digests

section Findings

variable {p : AuthorizationPolicyBundle} (hp : p.Unique) {r : AuthorizationRequest} {decided : Int}

include hp

theorem resolve_target {i : Str} (h : resolveRepository p r = some i) : ∃ t ∈ p.repositoryTenants, t.repositoryId = i := by
  unfold resolveRepository at h
  split at h
  · rename_i t hfound
    exact ⟨t, List.mem_of_find?_eq_some hfound, Option.some.inj h⟩
  · obtain ⟨a, hfound, rfl⟩ := Option.map_eq_some_iff.mp h
    obtain ⟨t, ht, hid, -⟩ := target_of_keyed (hp.targets a (List.mem_of_find?_eq_some hfound))
    exact ⟨t, ht, hid⟩

theorem evaluate_repository {i : Str} (h : (evaluate p r decided).repositoryId = some i) :
    ∃ t ∈ p.repositoryTenants, t.repositoryId = i := by
  unfold evaluate at h
  split at h
  · cases h
  · unfold targetFinding at h
    split at h
    · cases h
    · split at h
      · cases h
      · rename_i repositoryId hresolve
        rw [if_neg (not_not.mpr (resolve_registered hp hresolve))] at h
        obtain rfl := Option.some.inj h
        exact resolve_target hp hresolve

omit hp in
theorem evaluate_matched : ((evaluate p r decided).reason = .allowed ↔ (evaluate p r decided).matched ≠ []) ∧
    ((evaluate p r decided).matched = [] ∨
      ∃ repositoryId, (evaluate p r decided).matched = matchedBindings p r repositoryId decided) := by
  have hbinding (repositoryId : Option Str) : ((bindingFinding p r repositoryId decided).reason = .allowed ↔
      (bindingFinding p r repositoryId decided).matched ≠ []) := by
    dsimp only [bindingFinding]
    by_cases hnil : matchedBindings p r repositoryId decided = []
    · simp [hnil]
    · simp [hnil]
  unfold evaluate
  split
  · rename_i reason hrefusal
    refine ⟨?_, .inl rfl⟩
    constructor
    · rintro rfl
      exact absurd hrefusal refusal_ne_allowed
    · exact fun h => absurd rfl h
  · unfold targetFinding
    split
    · exact ⟨hbinding none, .inr ⟨none, rfl⟩⟩
    · split
      · exact ⟨by simp, .inl rfl⟩
      · split
        · exact ⟨by simp, .inl rfl⟩
        · exact ⟨hbinding _, .inr ⟨_, rfl⟩⟩

end Findings

section Answers

variable {p : AuthorizationPolicyBundle} {r : AuthorizationRequest} {decided : Int}

theorem identifierTuple_matched (hentries : p.checkEntries = .ok ()) (h : p.check = .ok ()) :
    identifierTuple (evaluate p r decided).matched (lit "matched_binding_ids") = .ok () ∧
      (evaluate p r decided).matched = sortedStrings (evaluate p r decided).matched := by
  have hp := unique_of_check h
  simp only [AuthorizationPolicyBundle.check, recordTuple_eq_ok, bind_eq_ok, exists_unit] at h
  obtain ⟨-, -, -, -, -, -, hcount, -⟩ := h
  simp only [AuthorizationPolicyBundle.checkEntries, bind_eq_ok, exists_unit, checkEach_eq_ok] at hentries
  obtain ⟨-, -, -, -, -, -, hbindings⟩ := hentries
  rcases (@evaluate_matched p r decided).2 with hnil | ⟨repositoryId, hmatched⟩
  · rw [hnil]
    exact ⟨rfl, rfl⟩
  · have hperm := sortedStrings_perm ((p.roleBindings.filter (fun b => b.authorizes r repositoryId decided)).map
      RoleBinding.bindingId)
    have hsub := (List.filter_sublist (p := fun b : RoleBinding => b.authorizes r repositoryId decided)
      (l := p.roleBindings)).map RoleBinding.bindingId
    have hlength := hsub.length_le.trans (List.length_map _).le
    rw [hmatched]
    refine ⟨?_, (sortedStrings_idem _).symm⟩
    simp only [identifierTuple, bind_eq_ok, exists_unit, raiseIf_eq_ok, checkEach_eq_ok, not_or, not_lt, not_not]
    refine ⟨⟨(hperm.length_eq.trans_le hlength).trans ?_, hperm.nodup_iff.mpr (hp.roleBindings.sublist hsub)⟩, ?_⟩
    · exact hcount
    · intro i hi
      obtain ⟨b, hb, rfl, -⟩ := mem_matchedBindings.mp hi
      have hcheck := hbindings b hb
      simp only [RoleBinding.check, bind_eq_ok, exists_unit] at hcheck
      exact identifier_eq_ok.mpr (identifier_eq_ok.mp hcheck.1)
def requestNames : List Str :=
  [lit "request_id", lit "principal_id", lit "agent_client_id", lit "tenant_id", lit "repository_reference",
    lit "permission", lit "requested_at"]

def decisionNames : List Str :=
  [lit "contract_version", lit "request_id", lit "request_sha256", lit "policy_sha256", lit "principal_id",
    lit "agent_client_id", lit "tenant_id", lit "repository_id", lit "permission", lit "allowed", lit "reason",
    lit "matched_binding_ids", lit "decided_at"]

theorem encodes_request (hr : r.check = .ok ())
    (hrequested : canonicalRfc3339 r.requestedAt = .ok (canonicalTime r.requestedAt)) :
    ∃ document, r.toDict = .ok document ∧ Encodes document := by
  simp only [AuthorizationRequest.check, bind_eq_ok, exists_unit] at hr
  obtain ⟨hid, hprincipal, hclient, htenant, hreference, -, -, -⟩ := hr
  have hreferenced : ∀ v ∈ r.repositoryReference, utf8 v = true := by
    intro v hv
    rw [Option.mem_def.mp hv] at hreference
    exact encodes_of_metadata hreference
  refine ⟨_, by rw [AuthorizationRequest.toDict, hrequested]; rfl, encodes_entries (@names_of_good _ requestNames (by decide) rfl) rfl ?_⟩
  simp only [List.map_cons, List.map_nil, List.forall_mem_cons, List.not_mem_nil, false_implies, implies_true, and_true]
  exact ⟨encodes_str (encodes_of_identifier hid), encodes_str (encodes_of_identifier hprincipal),
    encodes_str (encodes_of_identifier hclient), encodes_nullable (encodes_of_optional htenant),
    encodes_nullable hreferenced, encodes_str (by cases r.permission <;> rfl),
    encodes_str (encodes_of_canonical (canonicalText_canonicalTime hrequested))⟩

theorem encodes_content {d : AuthorizationDecision} (hrequest : identifier d.requestId (lit "request_id") = .ok ())
    (hrequestSha : digest d.requestSha256 (lit "request_sha256") = .ok ())
    (hpolicySha : digest d.policySha256 (lit "policy_sha256") = .ok ())
    (hprincipal : identifier d.principalId (lit "principal_id") = .ok ())
    (hclient : identifier d.agentClientId (lit "agent_client_id") = .ok ())
    (htenant : optionalIdentifier d.tenantId (lit "tenant_id") = .ok ())
    (hrepository : optionalIdentifier d.repositoryId (lit "repository_id") = .ok ())
    (hmatched : identifierTuple d.matchedBindingIds (lit "matched_binding_ids") = .ok ())
    (hdecided : canonicalRfc3339 d.decidedAt = .ok (canonicalTime d.decidedAt)) :
    ∃ document, d.content = .ok document ∧ Encodes document := by
  simp only [identifierTuple, bind_eq_ok, exists_unit, checkEach_eq_ok] at hmatched
  refine ⟨_, by rw [AuthorizationDecision.content, hdecided]; rfl,
    encodes_entries (@names_of_good _ decisionNames (by decide) rfl) rfl ?_⟩
  simp only [List.map_cons, List.map_nil, List.forall_mem_cons, List.not_mem_nil, false_implies, implies_true, and_true]
  exact ⟨encodes_str (by rfl), encodes_str (encodes_of_identifier hrequest), encodes_str (encodes_of_digest hrequestSha),
    encodes_str (encodes_of_digest hpolicySha), encodes_str (encodes_of_identifier hprincipal),
    encodes_str (encodes_of_identifier hclient), encodes_nullable (encodes_of_optional htenant),
    encodes_nullable (encodes_of_optional hrepository), encodes_str (by cases d.permission <;> rfl), ⟨rfl, rfl⟩,
    encodes_str (by cases d.reason <;> rfl),
    encodes_strings fun i hi => encodes_of_identifier (hmatched.2 i ((sortedStrings_perm _).mem_iff.mp hi)),
    encodes_str (encodes_of_canonical (canonicalText_canonicalTime hdecided))⟩

variable {hash : TextHash} {codec : FloatCodec} {decidedAt : Str} {requested : Int}

theorem authorize_answers (hentries : p.checkEntries = .ok ()) (h : p.check = .ok ()) (hdated : p.Dated)
    (hr : r.check = .ok ()) (hrequested : canonicalRfc3339 r.requestedAt = .ok (canonicalTime r.requestedAt))
    (hrequestedTime : timestamp r.requestedAt (lit "requested_at") = .ok requested)
    (hdecided : canonicalRfc3339 decidedAt = .ok (canonicalTime decidedAt))
    (hdecidedTime : timestamp decidedAt (lit "decided_at") = .ok decided) (horder : requested ≤ decided) :
    ∃ d, authorize hash codec p r decidedAt = .ok d := by
  have hp := unique_of_check h
  obtain ⟨document, hdocument, hencodes⟩ := encodes_request hr hrequested
  obtain ⟨requestSha256, hrequestSha, hrequestDigest⟩ := @sha256_of_encodes hash codec _ hencodes
  obtain ⟨policySha256, hpolicySha, hpolicyDigest⟩ :=
    @sha256_of_encodes hash codec _ (encodes_of_portable (portable_policy hentries h hdated))
  have hpolicy : p.sha256 hash codec = .ok policySha256 := by
    rw [AuthorizationPolicyBundle.sha256, toDict_eq_ok.mpr ⟨hdated, rfl⟩]
    exact hpolicySha
  have hrepository : optionalIdentifier (evaluate p r decided).repositoryId (lit "repository_id") = .ok () := by
    cases hfound : (evaluate p r decided).repositoryId with
    | none => rfl
    | some i =>
      obtain ⟨t, ht, rfl⟩ := evaluate_repository hp hfound
      simp only [AuthorizationPolicyBundle.checkEntries, bind_eq_ok, exists_unit, checkEach_eq_ok] at hentries
      obtain ⟨-, -, -, htenants, -, -, -⟩ := hentries
      have hcheck := htenants t ht
      simp only [RepositoryTenantBinding.check, bind_eq_ok, exists_unit] at hcheck
      exact hcheck.1
  obtain ⟨hmatched, hsorted⟩ := @identifierTuple_matched p r decided hentries h
  have hallowed := (@evaluate_matched p r decided).1
  simp only [AuthorizationRequest.check, bind_eq_ok, exists_unit] at hr
  obtain ⟨hid, hprincipal, hclient, htenant, -, -, -, -⟩ := hr
  have hshaRequest : digest requestSha256 (lit "request_sha256") = .ok () := raiseIf_of_not (by rw [hrequestDigest]; decide)
  have hshaPolicy : digest policySha256 (lit "policy_sha256") = .ok () := raiseIf_of_not (by rw [hpolicyDigest]; decide)
  obtain ⟨content, hcontent, hcontentEncodes⟩ := @encodes_content
    ⟨[], r.requestId, requestSha256, policySha256, r.principalId, r.agentClientId, r.tenantId,
      (evaluate p r decided).repositoryId, r.permission, decide ((evaluate p r decided).reason = .allowed),
      (evaluate p r decided).reason, (evaluate p r decided).matched, decidedAt⟩
    hid hshaRequest hshaPolicy hprincipal hclient htenant hrepository hmatched hdecided
  obtain ⟨eventSha256, heventSha, -⟩ := @sha256_of_encodes hash codec _ hcontentEncodes
  have heventId : authorizationEventId hash codec content = .ok (lit "authz_sha256_" ++ eventSha256.drop 7) := by
    rw [authorizationEventId, heventSha]
    rfl
  simp only [authorize, decision, AuthorizationDecision.check, bind_eq_ok, exists_unit, raiseIf_eq_ok, pure_eq_ok, not_lt,
    not_not]
  refine ⟨_, decided, hdecidedTime, requested, hrequestedTime, horder, document, hdocument, requestSha256, hrequestSha,
    policySha256, hpolicy, content, hcontent, _, heventId, ⟨hid, hshaRequest, hshaPolicy, hprincipal, hclient, htenant,
    hrepository, hmatched, hsorted, trivial, ?_, decided, hdecidedTime, content, hcontent, _, heventId, rfl⟩, rfl⟩
  exact decide_eq_decide.mpr hallowed

end Answers

section Laws

variable (hash : TextHash) (codec : FloatCodec)

def visitor : AuthorizationRequest :=
  ⟨lit "r", lit "a", lit "c", some (lit "home"), none, .tenantAuditRead, lit "2024-05-01T12:00:00Z"⟩

def visitedPolicy (principals : List PrincipalIdentity) : AuthorizationPolicyBundle :=
  ⟨lit "v1", principals, [⟨lit "c", none, .service, .active⟩], [], [], [], []⟩

def visitingPrincipal : PrincipalIdentity := samplePrincipal (lit "a") (some (lit "away"))

theorem visitedPolicy_valid {principals : List PrincipalIdentity}
    (hchecked : checkEach PrincipalIdentity.check principals = .ok ()) (hone : principals.length ≤ 1) :
    (visitedPolicy principals).checkEntries = .ok () ∧ (visitedPolicy principals).check = .ok () := by
  have hclient : checkEach AgentClientIdentity.check (visitedPolicy principals).agentClients = .ok () := by
    rw [checkEach_eq_ok, visitedPolicy, List.forall_mem_singleton]
    simp only [AgentClientIdentity.check, bind_eq_ok, exists_unit, identifier_eq_ok]
    exact ⟨sound_lit rfl, rfl⟩
  have hunique : uniqueBy PrincipalIdentity.principalId (visitedPolicy principals).principals "principal_id" = .ok () := by
    rw [uniqueBy, raiseIf_eq_ok, not_not]
    exact List.nodup_iff_count_le_one.mpr fun i => List.count_le_length.trans ((List.length_map _).trans_le hone)
  have htuple : recordTuple (visitedPolicy principals).principals "principals" = .ok () :=
    recordTuple_eq_ok.mpr (hone.trans (by decide))
  constructor
  · simp only [AuthorizationPolicyBundle.checkEntries, hclient, bind_eq_ok, exists_unit, true_and]
    exact ⟨hchecked, rfl, rfl, rfl, rfl, rfl⟩
  · simp only [AuthorizationPolicyBundle.check, htuple, hunique, bind_eq_ok, exists_unit, true_and]
    exact ⟨metadata_eq_ok.mpr (sound_lit rfl), rfl, rfl, rfl, rfl, rfl, rfl, rfl, rfl, rfl, rfl, rfl, rfl, rfl⟩

theorem visitor_mismatch (decided : Int) :
    (evaluate (visitedPolicy [visitingPrincipal]) visitor decided).reason = .principalTenantMismatch := by
  rfl

theorem visitor_unknown (decided : Int) : (evaluate (visitedPolicy []) visitor decided).reason = .unknownPrincipal := by
  rfl

end Laws

end Authorization

end TraceBackedMemory
