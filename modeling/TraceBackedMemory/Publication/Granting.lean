import TraceBackedMemory.Publication.Steps
import TraceBackedMemory.Foundation.JsonSize

namespace TraceBackedMemory

open Text Raising OrderBy Json Replay

namespace Publication

open EventContract (TextHash)

open Migration (AuthorizationScope keyed sound sound_lit canonicalSha256 Encodes encodes_str encodes_nullable
  encodes_entries names_of_good)

open SemanticGate (taggedHex isRevisionId isAuthorizationId)

open Authorization (AuthorizationPolicyBundle AuthorizationRequest AuthorizationDecision AuthorizationPermission
  RoleBinding PrincipalIdentity AgentClientIdentity samplePrincipal samplePrincipal_check identifier_eq_ok metadata_eq_ok
  authorize authorize_answers evaluate timestamp boundedOffset canonicalTime canonicalTime_of_ok identifier
  recordTuple_eq_ok uniqueBy mapError_eq_ok)

section Times

variable (t : CanonicalTime)

theorem canonical_time : canonicalRfc3339 t.text = .ok t.text := by
  obtain ⟨i, hi, htext, hinstant⟩ := t.canonical.instant
  simp only [canonicalRfc3339, GateSession.instant, bind_eq_ok, demand_eq_ok]
  refine ⟨i, hinstant, ?_⟩
  rw [utcText?, if_pos ⟨Int.natCast_nonneg i, Int.ofNat_le.mpr hi⟩, Int.toNat_natCast, htext]

theorem canonicalTime_time : canonicalRfc3339 t.text = .ok (canonicalTime t.text) := by
  rw [canonicalTime_of_ok (canonical_time t), canonical_time]

theorem instant_time : instant? t.text = some (t.instant : Int) := by
  obtain ⟨i, -, -, hinstant⟩ := t.canonical.instant
  rw [CanonicalTime.instant, micros, hinstant]
  rfl

theorem boundedOffset_time : boundedOffset t.text = true := by
  obtain ⟨i, -, htext⟩ := t.canonical
  have hlast : (isoformat i).getLast? = some (cp 'Z') := by
    have hfraction : (fractionText (i % 1000000)).getLast? = some (cp 'Z') := by
      unfold fractionText
      split
      · rfl
      · exact List.getLast?_concat
    rw [isoformat, List.getLast?_append, hfraction]
    rfl
  rw [boundedOffset, htext, hlast, decide_eq_true rfl]
  rfl

theorem timestamp_time (name : Str) : timestamp t.text name = .ok (t.instant : Int) := by
  rw [timestamp, demand_eq_ok, if_pos (boundedOffset_time t)]
  exact instant_time t

theorem of_eq_ok {value : Str} {t : CanonicalTime} (h : canonicalRfc3339 value = .ok t.text) :
    CanonicalTime.of value = .ok t := by
  unfold CanonicalTime.of
  split
  · rename_i canonical hcanonical
    exact congrArg Except.ok (CanonicalTime.eq_of_text (Except.ok.inj (hcanonical.symm.trans h)))
  · rename_i e herror
    rw [h] at herror
    cases herror

theorem publicationTime_time (name : Str) : publicationTime t.text name = .ok t := by
  simp only [publicationTime, bind_eq_ok, exists_unit, raiseIf_eq_ok, not_or]
  refine ⟨⟨by rw [boundedOffset_time]; decide, by rw [instant_time]; exact Option.some_ne_none _⟩, ?_⟩
  exact of_eq_ok (canonical_time t)

end Times

section Grants

variable (actor client tenant : Str)

def publisherBinding : RoleBinding :=
  ⟨lit "b", actor, client, lit "publisher", ⟨.tenant, some tenant, none, []⟩, [.memoryReview, .memoryActivate], .active,
    sampleTime.text, none⟩

-- one principal that may review and activate for one tenant
def publisherPolicy : AuthorizationPolicyBundle :=
  ⟨lit "v1", [samplePrincipal actor none], [⟨client, none, .service, .active⟩], [], [], [],
    [publisherBinding actor client tenant]⟩

def publisherRequest (permission : AuthorizationPermission) : AuthorizationRequest :=
  ⟨lit "q", actor, client, some tenant, none, permission, sampleTime.text⟩

variable {actor client tenant}

theorem publisherPolicy_valid (hactor : sound memoryIdMaxChars actor = true) (hclient : sound memoryIdMaxChars client = true)
    (htenant : sound memoryIdMaxChars tenant = true) :
    (publisherPolicy actor client tenant).checkEntries = .ok () ∧ (publisherPolicy actor client tenant).check = .ok () := by
  have htime := timestamp_time sampleTime
  have hprincipal : (samplePrincipal actor none).check = .ok () :=
    samplePrincipal_check hactor fun v hv => absurd hv (Option.not_mem_none v)
  have hagent : AgentClientIdentity.check ⟨client, none, .service, .active⟩ = .ok () := by
    simp only [AgentClientIdentity.check, bind_eq_ok, exists_unit, identifier_eq_ok]
    exact ⟨hclient, rfl⟩
  have hscope : (⟨.tenant, some tenant, none, []⟩ : AuthorizationScope).check = .ok () := by
    simp only [AuthorizationScope.check, bind_eq_ok, exists_unit]
    refine ⟨?_, rfl, rfl, rfl, rfl, rfl⟩
    exact Migration.required_eq_ok.mpr htenant
  have hbinding : (publisherBinding actor client tenant).check = .ok () := by
    simp only [RoleBinding.check, publisherBinding, bind_eq_ok, exists_unit, identifier_eq_ok, metadata_eq_ok,
      Authorization.checkWindow, htime]
    exact ⟨sound_lit rfl, hactor, hclient, sound_lit rfl, rfl, ⟨_, rfl, trivial⟩, rfl, rfl, rfl⟩
  constructor
  · simp only [AuthorizationPolicyBundle.checkEntries, publisherPolicy, bind_eq_ok, exists_unit, checkEach_eq_ok,
      List.forall_mem_singleton]
    exact ⟨hprincipal, hagent, List.forall_mem_nil _, List.forall_mem_nil _, List.forall_mem_nil _, hscope, hbinding⟩
  · simp only [AuthorizationPolicyBundle.check, publisherPolicy, bind_eq_ok, exists_unit, checkEach_eq_ok,
      List.forall_mem_singleton, metadata_eq_ok]
    refine ⟨sound_lit rfl, rfl, rfl, rfl, rfl, rfl, rfl, rfl, rfl, rfl, rfl, rfl, rfl, rfl, rfl, ?_⟩
    simp only [AuthorizationPolicyBundle.checkBinding, bind_eq_ok, exists_unit, raiseIf_eq_ok, not_not]
    exact ⟨List.mem_singleton.mpr rfl, List.mem_singleton.mpr rfl, by simp [publisherBinding]⟩

theorem publisherRequest_valid (hactor : sound memoryIdMaxChars actor = true)
    (hclient : sound memoryIdMaxChars client = true) (htenant : sound memoryIdMaxChars tenant = true)
    {permission : AuthorizationPermission} (hpermission : permission ∈ Authorization.tenantOrRepositoryPermissions) :
    (publisherRequest actor client tenant permission).check = .ok () := by
  have htime := timestamp_time sampleTime
  have htarget : (publisherRequest actor client tenant permission).checkTarget = .ok () := by
    rw [Authorization.tenantOrRepositoryPermissions, List.mem_pair] at hpermission
    rcases hpermission with rfl | rfl <;> rfl
  simp only [AuthorizationRequest.check, publisherRequest, identifier_eq_ok, bind_eq_ok, exists_unit, htime] at htarget ⊢
  exact ⟨sound_lit rfl, hactor, hclient, identifier_eq_ok.mpr htenant, rfl, _, rfl, htarget⟩

theorem publisherPolicy_evaluates {permission : AuthorizationPermission}
    (hpermission : permission ∈ Authorization.tenantOrRepositoryPermissions) {i : Int} (hi : (sampleTime.instant : Int) ≤ i) :
    evaluate (publisherPolicy actor client tenant) (publisherRequest actor client tenant permission) i =
      ⟨none, .allowed, [lit "b"]⟩ := by
  have hgranted : permission ∈ (publisherBinding actor client tenant).permissions := hpermission
  have hauthorizes : (publisherBinding actor client tenant).authorizes
      (publisherRequest actor client tenant permission) none i = true := by
    simp only [RoleBinding.authorizes, RoleBinding.inWindow, RoleBinding.covers, Bool.and_eq_true, decide_eq_true_eq]
    refine ⟨⟨⟨⟨rfl, rfl, rfl⟩, ?_, rfl⟩, .inl hgranted⟩, ?_⟩
    · rw [publisherBinding, instant_time]
      exact decide_eq_true hi
    · exact decide_eq_true rfl
  have hmatched : Authorization.matchedBindings (publisherPolicy actor client tenant)
      (publisherRequest actor client tenant permission) none i = [lit "b"] := by
    have hfilter : (publisherPolicy actor client tenant).roleBindings.filter (fun b => b.authorizes
        (publisherRequest actor client tenant permission) none i) = [publisherBinding actor client tenant] :=
      List.filter_eq_self.mpr (List.forall_mem_singleton.mpr hauthorizes)
    rw [Authorization.matchedBindings, hfilter]
    rfl
  have hprincipal : (publisherPolicy actor client tenant).principal? actor = some (samplePrincipal actor none) :=
    @keyed_snoc_self _ PrincipalIdentity.principalId [] (samplePrincipal actor none) rfl
  have hagent : (publisherPolicy actor client tenant).client? client = some ⟨client, none, .service, .active⟩ :=
    @keyed_snoc_self _ AgentClientIdentity.agentClientId [] ⟨client, none, .service, .active⟩ rfl
  have hrefusal : Authorization.refusal ((publisherPolicy actor client tenant).principal? actor)
      ((publisherPolicy actor client tenant).client? client) (some tenant) = none := by
    rw [hprincipal, hagent]
    rfl
  unfold evaluate
  rw [publisherRequest] at hmatched ⊢
  rw [hrefusal]
  simp only [Authorization.targetFinding, Authorization.bindingFinding, hmatched]
  rfl

theorem authorize_fields {hash : TextHash} {codec : FloatCodec} {p : AuthorizationPolicyBundle}
    {r : AuthorizationRequest} {decidedAt : Str} {d : AuthorizationDecision}
    (h : authorize hash codec p r decidedAt = .ok d) :
    d.permission = r.permission ∧ d.principalId = r.principalId ∧ d.agentClientId = r.agentClientId ∧
      d.tenantId = r.tenantId ∧ d.decidedAt = decidedAt ∧ d.check hash codec = .ok () := by
  simp only [authorize, Authorization.decision, bind_eq_ok, exists_unit, pure_eq_ok] at h
  obtain ⟨_, -, _, -, -, _, -, _, -, _, -, _, -, _, -, hcheck, rfl⟩ := h
  exact ⟨rfl, rfl, rfl, rfl, rfl, hcheck⟩

theorem exists_grant (hash : TextHash) (codec : FloatCodec) (hactor : sound memoryIdMaxChars actor = true)
    (hclient : sound memoryIdMaxChars client = true) (htenant : sound memoryIdMaxChars tenant = true)
    {permission : AuthorizationPermission} (hpermission : permission ∈ Authorization.tenantOrRepositoryPermissions)
    {t : CanonicalTime} (ht : sampleTime.instant ≤ t.instant) :
    ∃ d, publicationAuthorization hash codec
        ⟨publisherPolicy actor client tenant, publisherRequest actor client tenant permission, d⟩ permission actor client
        tenant none t = .ok () ∧ d.check hash codec = .ok () ∧ d.decidedAt = t.text ∧
          d.matchedBindingIds = [lit "b"] := by
  have hlater : (sampleTime.instant : Int) ≤ t.instant := Int.ofNat_le.mpr ht
  obtain ⟨hentries, hcheck⟩ := publisherPolicy_valid hactor hclient htenant
  have hdated : (publisherPolicy actor client tenant).Dated :=
    List.forall_mem_singleton.mpr ⟨canonicalTime_time sampleTime, fun _ h => by cases h⟩
  obtain ⟨d, hd⟩ := @authorize_answers _ _ _ hash codec _ _ hentries hcheck hdated
    (publisherRequest_valid hactor hclient htenant hpermission) (canonicalTime_time sampleTime) (timestamp_time sampleTime _)
    (canonicalTime_time t) (timestamp_time t _) hlater
  obtain ⟨hsame, hprincipal, hagent, hbound, hdecided, hchecked⟩ := authorize_fields hd
  obtain ⟨j, hj, hallowed, -, hrepository, hmatched⟩ := Authorization.authorize_finding hd
  obtain rfl : (t.instant : Int) = j := Option.some.inj ((instant_time t).symm.trans hj)
  rw [publisherPolicy_evaluates hpermission hlater] at hallowed hrepository hmatched
  refine ⟨d, ?_, hchecked, hdecided, hmatched⟩
  simp only [publicationAuthorization, Authorization.verifyAuthorizationDecision, bind_eq_ok, exists_unit, mapError_eq_ok,
    raiseIf_eq_ok, not_not, Bool.not_eq_false, not_or]
  refine ⟨⟨d, by rw [hdecided]; exact hd, rfl⟩, hallowed.mpr rfl, t.text, ?_, ⟨rfl, hsame, rfl, hprincipal, rfl,
    hagent, rfl, hbound, hrepository, rfl⟩, rfl⟩
  rw [hdecided]
  exact canonical_time t

end Grants

section Naming

variable {hash : TextHash} {codec : FloatCodec}

theorem taggedHex_digest {v : Json} {digest : Str} (h : canonicalSha256 hash codec v = .ok digest) (stem : String) :
    taggedHex stem (lit stem ++ digest.drop 7) = true := by
  simp only [canonicalSha256, bind_eq_ok, pure_eq_ok] at h
  obtain ⟨_, -, rfl⟩ := h
  have hdrop : ((hash.canonical codec).domain [] v).drop 7 = (hash.canonical codec).hexdigest [] v :=
    List.drop_left' (by decide)
  rw [hdrop]
  simp only [taggedHex, Bool.and_eq_true, decide_eq_true_eq, List.drop_left, List.length_append]
  refine ⟨⟨?_, List.isPrefixOf_iff_prefix.mpr (List.prefix_append _ _)⟩, (hash.canonical codec).hex_hexdigest [] v⟩
  rw [(hash.canonical codec).length_hexdigest]

theorem derivedId_total {v : Json} (h : Encodes v) (stem : String) :
    ∃ id, derivedId hash codec stem v = .ok id ∧ taggedHex stem id = true := by
  have hdigest := @Migration.canonicalSha256_of_encodes hash codec v h
  exact ⟨_, by rw [derivedId, hdigest]; rfl, taggedHex_digest hdigest stem⟩

theorem utf8_of_taggedHex {stem : String} {s : Str} (hstem : utf8 (lit stem) = true) (h : taggedHex stem s = true) :
    utf8 s = true := by
  simp only [taggedHex, Bool.and_eq_true, decide_eq_true_eq, List.isPrefixOf_iff_prefix] at h
  obtain ⟨⟨-, rest, rfl⟩, hhex⟩ := h
  rw [List.drop_left] at hhex
  exact Migration.utf8_append.mpr ⟨hstem, encodedBytes_of_ascii (ascii_of_hex hhex)⟩

theorem publicationIdentifier_eq_ok {value name : Str} :
    publicationIdentifier value name = .ok () ↔ sound memoryIdMaxChars value = true := by
  simp only [publicationIdentifier, boundedText, bind_eq_ok, exists_unit, raiseIf_eq_ok, sound, Bool.and_eq_true,
    Bool.not_eq_true', decide_eq_true_eq, not_or, not_lt, Bool.not_eq_true, Bool.not_eq_false]

theorem revisionIdentifier_eq_ok {value name : Str} :
    revisionIdentifier value name = .ok () ↔ sound memoryIdMaxChars value = true := by
  simp only [revisionIdentifier, boundedText, bind_eq_ok, exists_unit, raiseIf_eq_ok, sound, Bool.and_eq_true,
    Bool.not_eq_true', decide_eq_true_eq, not_or, not_lt, Bool.not_eq_true, Bool.not_eq_false]

theorem derivedForm_eq_ok {pattern : Str → Bool} {value : Option Str} {name : Str} :
    derivedForm pattern value name = .ok () ↔ value.any pattern = true := by
  simp only [derivedForm, raiseIf_eq_ok, Bool.not_eq_false]

theorem publicationDigest_eq_ok {value name : Str} :
    publicationDigest value name = .ok () ↔ validDigest value = true := by
  simp only [publicationDigest, raiseIf_eq_ok, Bool.not_eq_false]

theorem utf8_of_sound {limit : Nat} {s : Str} (h : sound limit s = true) : utf8 s = true := by
  simp only [sound, Bool.and_eq_true] at h
  exact h.2

end Naming

section Approving

variable {hash : TextHash} {bytes : ContentHash} {codec : FloatCodec}

-- what a revision gives to the events that publish it
structure Publishable (r : MemoryRevision) (tenant : Str) : Prop where
  revisionId : isRevisionId r.revisionId = true
  memoryId : sound memoryIdMaxChars r.memoryId = true
  lineage : revisionLineageShape r.revisionNumber r.previousRevisionId = .ok ()
  number : (decimal r.revisionNumber).length ≤ 20
  tenantId : sound memoryIdMaxChars tenant = true
  target : scopeTarget r.scope = .ok (tenant, none)

theorem revisionStem : utf8 (lit "memory_revision_sha256_") = true := by rfl

theorem approvalStem : utf8 (lit "memory_approval_sha256_") = true := by rfl

theorem activationStem : utf8 (lit "memory_activation_sha256_") = true := by rfl

theorem authorizationStem : utf8 (lit "authz_sha256_") = true := by rfl

theorem utf8_of_lineage {n : Nat} {previous : Option Str} (h : revisionLineageShape n previous = .ok ()) :
    ∀ id ∈ previous, utf8 id = true := by
  simp only [revisionLineageShape, bind_eq_ok, exists_unit] at h
  obtain ⟨-, h⟩ := h
  rintro id rfl
  split at h
  · simp only [raiseIf_eq_ok, ne_eq, reduceCtorEq, not_false_eq_true, not_true_eq_false] at h
  · exact utf8_of_taggedHex revisionStem (derivedForm_eq_ok.mp h)

theorem encodes_count {n : Nat} (h : (decimal n).length ≤ 20) : Encodes (.num (.int n)) :=
  ⟨decide_eq_true (h.trans (by decide)), rfl⟩

def approvalNames : List Str :=
  [lit "contract_version", lit "revision_id", lit "memory_id", lit "revision_number", lit "previous_revision_id",
    lit "tenant_id", lit "repository_id", lit "artifact_content_sha256", lit "evidence_bundle_sha256", lit "approved_by",
    lit "approved_via_client_id", lit "authorization_event_id", lit "authorization_request_sha256",
    lit "authorization_policy_sha256", lit "approved_at", lit "approval_attestation_sha256"]

theorem utf8_of_validDigest {s : Str} (h : validDigest s = true) : utf8 s = true := (Migration.ascii_of_digest h).utf8

theorem utf8_of_time (t : CanonicalTime) : utf8 t.text = true := Authorization.encodes_of_canonical t.canonical

-- the fields of an approval, its identity apart
structure ApprovalFields (a : MemoryRevisionApproval) : Prop where
  revisionId : isRevisionId a.revisionId = true
  memoryId : sound memoryIdMaxChars a.memoryId = true
  lineage : revisionLineageShape a.revisionNumber a.previousRevisionId = .ok ()
  number : (decimal a.revisionNumber).length ≤ 20
  tenantId : sound memoryIdMaxChars a.tenantId = true
  repositoryId : a.repositoryId = none
  content : validDigest a.artifactContentSha256 = true
  evidence : validDigest a.evidenceBundleSha256 = true
  approvedBy : sound memoryIdMaxChars a.approvedBy = true
  client : sound memoryIdMaxChars a.approvedViaClientId = true
  authorization : isAuthorizationId a.authorizationEventId = true
  request : validDigest a.authorizationRequestSha256 = true
  policy : validDigest a.authorizationPolicySha256 = true
  attestation : validDigest a.approvalAttestationSha256 = true

theorem ApprovalFields.encodes {a : MemoryRevisionApproval} (h : ApprovalFields a) : Encodes (.obj a.unsigned) := by
  refine encodes_entries (@names_of_good _ approvalNames (by decide) rfl) rfl ?_
  simp only [MemoryRevisionApproval.unsigned, List.map_cons, List.map_nil, List.forall_mem_cons, List.not_mem_nil,
    false_implies, implies_true, and_true]
  refine ⟨encodes_str (by rfl), encodes_str (utf8_of_taggedHex revisionStem h.revisionId),
    encodes_str (utf8_of_sound h.memoryId), encodes_count h.number, encodes_nullable (utf8_of_lineage h.lineage),
    encodes_str (utf8_of_sound h.tenantId), encodes_nullable ?_, encodes_str (utf8_of_validDigest h.content),
    encodes_str (utf8_of_validDigest h.evidence), encodes_str (utf8_of_sound h.approvedBy),
    encodes_str (utf8_of_sound h.client), encodes_str (utf8_of_taggedHex authorizationStem h.authorization),
    encodes_str (utf8_of_validDigest h.request), encodes_str (utf8_of_validDigest h.policy),
    encodes_str (utf8_of_time _), encodes_str (utf8_of_validDigest h.attestation)⟩
  rw [h.repositoryId]
  exact fun v hv => absurd hv (Option.not_mem_none v)

theorem ApprovalFields.named {a : MemoryRevisionApproval} (h : ApprovalFields a) :
    ∃ id, a.memoryRevisionApprovalId hash codec = .ok id ∧ ({ a with approvalId := id }).check hash codec = .ok () := by
  obtain ⟨id, hid, htagged⟩ := @derivedId_total hash codec _ h.encodes "memory_approval_sha256_"
  refine ⟨id, hid, ?_⟩
  simp only [MemoryRevisionApproval.check, checkTarget, bind_eq_ok, exists_unit, derivedForm_eq_ok,
    publicationIdentifier_eq_ok, publicationDigest_eq_ok, raiseIf_eq_ok, not_not]
  exact ⟨htagged, h.revisionId, h.memoryId, h.lineage, ⟨h.tenantId, by rw [h.repositoryId]; rfl⟩, h.content, h.evidence,
    h.approvedBy, h.client, h.authorization, h.request, h.policy, h.attestation, id, hid, rfl⟩

theorem decision_digests {d : AuthorizationDecision} (h : d.check hash codec = .ok ()) :
    isAuthorizationId d.authorizationEventId = true ∧ validDigest d.requestSha256 = true ∧
      validDigest d.policySha256 = true := by
  simp only [AuthorizationDecision.check, Authorization.digest, Authorization.authorizationEventId, bind_eq_ok, exists_unit,
    raiseIf_eq_ok, Bool.not_eq_false, not_not, pure_eq_ok] at h
  obtain ⟨-, hrequest, hpolicy, -, -, -, -, -, -, -, -, _, -, content, -, _, ⟨digest, hdigest, rfl⟩, hid⟩ := h
  refine ⟨?_, hrequest, hpolicy⟩
  rw [hid]
  exact taggedHex_digest hdigest "authz_sha256_"

theorem approve_total {s : Submission} {g : Grant} {event : ApprovalEvent} {tenant evidence : Str} {t : CanonicalTime}
    (hr : Publishable s.revision tenant) (hlineage : lineage s.revision s.previousRevision = .ok ())
    (hcontent : verifyArtifactContent bytes s.revision.contentArtifact s.content = true)
    (hevidence : verifyMemoryRevisionEvidenceBundle s.revision s.fixes s.regressions = .ok ())
    (happrover : sound memoryIdMaxChars event.approvedBy = true)
    (hclient : sound memoryIdMaxChars event.approvedViaClientId = true)
    (hproposer : event.approvedBy ≠ s.revision.proposedBy)
    (hindependent : requireIndependentEvidenceActor s.revision s.fixes s.regressions event.approvedBy "approver" = .ok ())
    (htime : event.approvedAt = t.text) (horder : s.revision.proposedAt.instant ≤ t.instant)
    (hgrant : publicationAuthorization hash codec g .memoryReview event.approvedBy event.approvedViaClientId tenant none
      t = .ok ()) (hdecision : g.decision.check hash codec = .ok ())
    (hdigest : evidenceBundleSha256 s.revision s.fixes s.regressions hash codec = .ok evidence)
    (hvalid : validDigest evidence = true) (hattestation : validDigest event.attestationSha256 = true) :
    ∃ a, approveMemoryRevision hash bytes codec s g event = .ok a := by
  obtain ⟨hevent, hrequest, hpolicy⟩ := decision_digests hdecision
  have hartifact : validDigest s.revision.contentArtifact.contentSha256 = true := by
    have hchecked := s.revision.contentArtifact.checked
    simp only [ArtifactFields.check, replayDigest, bind_eq_ok, exists_unit, raiseIf_eq_ok, Bool.not_eq_false] at hchecked
    exact hchecked.1
  have hfields : ApprovalFields
      { approvalId := [], revisionId := s.revision.revisionId, memoryId := s.revision.memoryId,
        revisionNumber := s.revision.revisionNumber, previousRevisionId := s.revision.previousRevisionId,
        tenantId := tenant, repositoryId := none,
        artifactContentSha256 := s.revision.contentArtifact.contentSha256, evidenceBundleSha256 := evidence,
        approvedBy := event.approvedBy, approvedViaClientId := event.approvedViaClientId,
        authorizationEventId := g.decision.authorizationEventId,
        authorizationRequestSha256 := g.decision.requestSha256,
        authorizationPolicySha256 := g.decision.policySha256, approvedAt := t,
        approvalAttestationSha256 := event.attestationSha256 } :=
    ⟨hr.revisionId, hr.memoryId, hr.lineage, hr.number, hr.tenantId, rfl, hartifact, hvalid, happrover, hclient, hevent,
      hrequest, hpolicy, hattestation⟩
  obtain ⟨id, hid, hcheck⟩ := @ApprovalFields.named hash codec _ hfields
  simp only [approveMemoryRevision, bind_eq_ok, exists_unit, raiseIf_eq_ok, mapError_eq_ok, pure_eq_ok, Bool.not_eq_false,
    not_lt, publicationIdentifier_eq_ok, publicationDigest_eq_ok, htime, publicationTime_time, hr.target, hdigest]
  exact ⟨_, hlineage, hcontent, hevidence, happrover, hclient, hproposer, hindependent, _, rfl, horder, _, rfl, hgrant, _,
    rfl, hattestation, id, hid, hcheck, rfl⟩

end Approving

section Activating

variable {hash : TextHash} {bytes : ContentHash} {codec : FloatCodec}

def activationNames : List Str :=
  [lit "contract_version", lit "revision_id", lit "approval_id", lit "memory_id", lit "revision_number",
    lit "previous_revision_id", lit "activation_sequence", lit "previous_activation_id", lit "tenant_id",
    lit "repository_id", lit "activated_by", lit "activated_via_client_id", lit "authorization_event_id",
    lit "authorization_request_sha256", lit "authorization_policy_sha256", lit "activated_at",
    lit "activation_attestation_sha256"]

-- the fields of an activation, its identity apart
structure ActivationFields (a : MemoryRevisionActivation) : Prop where
  revisionId : isRevisionId a.revisionId = true
  approvalId : isApprovalId a.approvalId = true
  memoryId : sound memoryIdMaxChars a.memoryId = true
  lineage : revisionLineageShape a.revisionNumber a.previousRevisionId = .ok ()
  number : (decimal a.revisionNumber).length ≤ 20
  sequence : a.activationSequence = a.revisionNumber
  first : a.revisionNumber = 1 → a.previousActivationId = none
  later : a.revisionNumber ≠ 1 → a.previousActivationId.any isActivationId = true
  tenantId : sound memoryIdMaxChars a.tenantId = true
  repositoryId : a.repositoryId = none
  activatedBy : sound memoryIdMaxChars a.activatedBy = true
  client : sound memoryIdMaxChars a.activatedViaClientId = true
  authorization : isAuthorizationId a.authorizationEventId = true
  request : validDigest a.authorizationRequestSha256 = true
  policy : validDigest a.authorizationPolicySha256 = true
  attestation : validDigest a.activationAttestationSha256 = true

theorem ActivationFields.previous {a : MemoryRevisionActivation} (h : ActivationFields a) :
    ∀ id ∈ a.previousActivationId, isActivationId id = true := by
  intro id hid
  have hlater : a.revisionNumber ≠ 1 := by
    intro hone
    rw [h.first hone] at hid
    exact Option.not_mem_none id hid
  have hform := h.later hlater
  rw [Option.mem_def.mp hid] at hform
  exact hform

theorem ActivationFields.encodes {a : MemoryRevisionActivation} (h : ActivationFields a) :
    Encodes (.obj a.unsigned) := by
  have habsent {o : Option Str} (ho : o = none) : ∀ v ∈ o, utf8 v = true :=
    fun v hv => absurd (ho ▸ hv) (Option.not_mem_none v)
  refine encodes_entries (@names_of_good _ activationNames (by decide) rfl) rfl ?_
  simp only [MemoryRevisionActivation.unsigned, List.map_cons, List.map_nil, List.forall_mem_cons, List.not_mem_nil,
    false_implies, implies_true, and_true]
  exact ⟨encodes_str (by rfl), encodes_str (utf8_of_taggedHex revisionStem h.revisionId),
    encodes_str (utf8_of_taggedHex approvalStem h.approvalId), encodes_str (utf8_of_sound h.memoryId),
    encodes_count h.number, encodes_nullable (utf8_of_lineage h.lineage), encodes_count (h.sequence ▸ h.number),
    encodes_nullable fun id hid => utf8_of_taggedHex activationStem (h.previous id hid),
    encodes_str (utf8_of_sound h.tenantId), encodes_nullable (habsent h.repositoryId),
    encodes_str (utf8_of_sound h.activatedBy), encodes_str (utf8_of_sound h.client),
    encodes_str (utf8_of_taggedHex authorizationStem h.authorization), encodes_str (utf8_of_validDigest h.request),
    encodes_str (utf8_of_validDigest h.policy), encodes_str (utf8_of_time _),
    encodes_str (utf8_of_validDigest h.attestation)⟩

theorem ActivationFields.named {a : MemoryRevisionActivation} (h : ActivationFields a) :
    ∃ id, a.memoryRevisionActivationId hash codec = .ok id ∧
      ({ a with activationId := id }).check hash codec = .ok () := by
  obtain ⟨id, hid, htagged⟩ := @derivedId_total hash codec _ h.encodes "memory_activation_sha256_"
  refine ⟨id, hid, ?_⟩
  simp only [MemoryRevisionActivation.check, bind_eq_ok, exists_unit, derivedForm_eq_ok, publicationIdentifier_eq_ok,
    raiseIf_eq_ok, not_not]
  refine ⟨htagged, h.revisionId, h.approvalId, h.memoryId, h.lineage, h.sequence, ?_⟩
  have hrest : checkTarget a.tenantId a.repositoryId = .ok () ∧ sound memoryIdMaxChars a.activatedBy = true ∧
      sound memoryIdMaxChars a.activatedViaClientId = true ∧ isAuthorizationId a.authorizationEventId = true ∧
        validDigest a.authorizationRequestSha256 = true ∧ validDigest a.authorizationPolicySha256 = true ∧
          validDigest a.activationAttestationSha256 = true := by
    refine ⟨?_, h.activatedBy, h.client, h.authorization, h.request, h.policy, h.attestation⟩
    simp only [checkTarget, bind_eq_ok, exists_unit, publicationIdentifier_eq_ok]
    exact ⟨h.tenantId, by rw [h.repositoryId]; rfl⟩
  obtain ⟨htarget, hactivator, hclient, hauthorization, hrequest, hpolicy, hattestation⟩ := hrest
  by_cases hone : a.revisionNumber = 1
  · rw [if_pos (h.sequence.trans hone)]
    simp only [bind_eq_ok, exists_unit, derivedForm_eq_ok, publicationIdentifier_eq_ok, publicationDigest_eq_ok,
      raiseIf_eq_ok, not_not, Option.any_some]
    exact ⟨h.first hone, htarget, hactivator, hclient, hauthorization, hrequest, hpolicy, hattestation, id, hid, rfl⟩
  · rw [if_neg (fun hsame => hone (h.sequence.symm.trans hsame))]
    simp only [bind_eq_ok, exists_unit, derivedForm_eq_ok, publicationIdentifier_eq_ok, publicationDigest_eq_ok,
      raiseIf_eq_ok, not_not, Option.any_some]
    exact ⟨h.later hone, htarget, hactivator, hclient, hauthorization, hrequest, hpolicy, hattestation, id, hid, rfl⟩

theorem activate_total {s : Submission} {approval : MemoryRevisionApproval} {approvalGrant g : Grant}
    {event : ActivationEvent} {tenant : Str} {t : CanonicalTime} {previous : Option MemoryRevisionActivation}
    (hr : Publishable s.revision tenant) (hlineage : activationLineage s.revision previous = .ok ())
    (hprevious : ∀ p ∈ previous, isActivationId p.activationId = true)
    (happroved : approveMemoryRevision hash bytes codec s approvalGrant ⟨approval.approvedBy,
      approval.approvedViaClientId, approval.approvedAt.text, approval.approvalAttestationSha256⟩ = .ok approval)
    (hactivator : sound memoryIdMaxChars event.activatedBy = true)
    (hclient : sound memoryIdMaxChars event.activatedViaClientId = true)
    (hactors : event.activatedBy ∉ [s.revision.proposedBy, approval.approvedBy])
    (hindependent : requireIndependentEvidenceActor s.revision s.fixes s.regressions event.activatedBy "activator" = .ok ())
    (htime : event.activatedAt = t.text) (horder : approval.approvedAt.instant ≤ t.instant)
    (hgrant : publicationAuthorization hash codec g .memoryActivate event.activatedBy event.activatedViaClientId tenant
      none t = .ok ()) (hdecision : g.decision.check hash codec = .ok ())
    (hattestation : validDigest event.attestationSha256 = true) :
    ∃ a, activateMemoryRevision hash bytes codec s approval approvalGrant previous g event = .ok a ∧ a.activatedAt = t := by
  obtain ⟨hevent, hrequest, hpolicy⟩ := decision_digests hdecision
  have happroval := approve_eq_ok happroved
  have hnamed : isApprovalId approval.approvalId = true := by
    have hchecked := happroval.checked
    simp only [MemoryRevisionApproval.check, bind_eq_ok, exists_unit, derivedForm_eq_ok] at hchecked
    exact hchecked.1
  have hfirst : s.revision.revisionNumber = 1 → previous.map MemoryRevisionActivation.activationId = none := by
    intro hone
    obtain ⟨-, hnone⟩ | ⟨hlater, -⟩ := activationLineage_eq_ok.mp hlineage
    · rw [hnone]
      rfl
    · exact absurd hone hlater
  have hlater : s.revision.revisionNumber ≠ 1 →
      (previous.map MemoryRevisionActivation.activationId).any isActivationId = true := by
    intro hlater
    obtain ⟨hone, -⟩ | ⟨-, p, hp, -⟩ := activationLineage_eq_ok.mp hlineage
    · exact absurd hone hlater
    · rw [hp]
      exact hprevious p hp
  have hfields : ActivationFields
      { activationId := [], revisionId := s.revision.revisionId, approvalId := approval.approvalId,
        memoryId := s.revision.memoryId, revisionNumber := s.revision.revisionNumber,
        previousRevisionId := s.revision.previousRevisionId, activationSequence := s.revision.revisionNumber,
        previousActivationId := previous.map MemoryRevisionActivation.activationId, tenantId := tenant,
        repositoryId := none, activatedBy := event.activatedBy, activatedViaClientId := event.activatedViaClientId,
        authorizationEventId := g.decision.authorizationEventId,
        authorizationRequestSha256 := g.decision.requestSha256,
        authorizationPolicySha256 := g.decision.policySha256, activatedAt := t,
        activationAttestationSha256 := event.attestationSha256 } :=
    ⟨hr.revisionId, hnamed, hr.memoryId, hr.lineage, hr.number, rfl, hfirst, hlater, hr.tenantId, rfl, hactivator, hclient,
      hevent, hrequest, hpolicy, hattestation⟩
  obtain ⟨id, hid, hcheck⟩ := @ActivationFields.named hash codec _ hfields
  have htarget := happroval.target
  rw [hr.target] at htarget
  simp only [activateMemoryRevision, verifyMemoryRevisionApproval, happroved, bind_eq_ok, exists_unit, raiseIf_eq_ok,
    pure_eq_ok, not_or, not_not, not_lt, publicationIdentifier_eq_ok, publicationDigest_eq_ok, htime,
    publicationTime_time, hr.target, hlineage]
  refine ⟨_, ⟨⟨approval, rfl, rfl⟩, _, rfl, ⟨happroval.revisionId, happroval.memoryId, happroval.revisionNumber,
    happroval.previousRevisionId, ?_, ?_, happroval.artifact⟩, trivial, hactivator, hclient, hactors, hindependent, _, rfl,
    horder, hgrant, hattestation, id, hid, hcheck, rfl⟩, rfl⟩
  · exact (congrArg Prod.fst (Except.ok.inj htarget)).symm
  · exact (congrArg Prod.snd (Except.ok.inj htarget)).symm

end Activating

end Publication

end TraceBackedMemory
