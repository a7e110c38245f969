import TraceBackedMemory.Publication.Drafts
import TraceBackedMemory.Publication.Chain

namespace TraceBackedMemory

open Text Raising OrderBy Json Replay

namespace Publication

open EventContract (TextHash)

open Migration (AuthorizationScope keyed sound sound_lit nullable jsonStrings objects)

open Authorization (AuthorizationPolicyBundle AuthorizationRequest AuthorizationDecision AuthorizationPermission RoleBinding samplePrincipal
  loadsAuthorizationPolicy mapError_eq_ok canonicalTime canonicalTime_of_ok)

section Accepting

variable {codec : FloatCodec} {hash : TextHash} {bytes : ContentHash} {db : PublicationDb}

-- the texts of a grant can be kept, and its policy read again
structure Writable (codec : FloatCodec) (g : Grant) (t : Texts) : Prop where
  texts : g.texts codec = .ok t
  fit : t.fit = true
  loads : ∃ q, loadsAuthorizationPolicy codec (.text t.policy) = .ok q

theorem readTexts_total {policy verifier : Str} {message : String}
    (hloads : ∃ q, loadsAuthorizationPolicy codec (.text policy) = .ok q) (hv : sound memoryIdMaxChars verifier = true) :
    readTexts codec policy verifier message = .ok () := by
  obtain ⟨q, hq⟩ := hloads
  simp only [sound, Bool.and_eq_true, Bool.not_eq_true', decide_eq_true_eq] at hv
  simp only [readTexts, bind_eq_ok, mapError_eq_ok, raiseIf_eq_ok, not_or, not_lt, Bool.not_eq_true]
  exact ⟨q, hq, hv.1.1, hv.1.2⟩

theorem appendApproval_total {c : ApprovalCall} {a : MemoryRevisionApproval} {t : Texts}
    (ha : approveMemoryRevision hash bytes codec c.submission c.grant c.event = .ok a) (hvouches : c.verifier.vouches = true)
    (hverifier : sound memoryIdMaxChars c.verifier.verifierId = true) (hw : Writable codec c.grant t)
    (hb : Bundled db c.submission) (hid : db.approval? a.approvalId = none)
    (hfresh : ∀ other ∈ db.approvals, other.approval.revisionId ≠ a.revisionId)
    (hfits : fits (canonicalText codec.repr a.toDict) = true) :
    appendApproval codec db hash bytes c =
      .ok ({ db with approvals := db.approvals ++ [⟨a, t.policy, t.request, t.decision, c.verifier.verifierId⟩] },
        ⟨a, true, c.verifier.verifierId⟩) := by
  have happroved := approve_eq_ok ha
  have hproposal : ∃ p ∈ db.proposals, p.revisionId = a.revisionId ∧ p.memoryId = a.memoryId ∧
      p.revisionNumber = a.revisionNumber :=
    ⟨_, List.mem_of_find?_eq_some hb.revision, happroved.revisionId.symm, happroved.memoryId.symm,
      happroved.revisionNumber.symm⟩
  have hput : putApproval codec db ⟨a, t.policy, t.request, t.decision, c.verifier.verifierId⟩ =
      .ok ({ db with approvals := db.approvals ++ [⟨a, t.policy, t.request, t.decision, c.verifier.verifierId⟩] },
        true) := by
    simp only [putApproval, hid, bind_eq_ok, exists_unit, raiseIf_eq_ok, not_or, not_not, Bool.not_eq_false, pure_eq_ok,
      and_true]
    refine ⟨?_, hproposal, hfits, hw.fit⟩
    rintro ⟨other, hother, hsame⟩
    exact hfresh other hother hsame
  have hread : keyed (fun row => row.approval.approvalId)
      (db.approvals ++ [⟨a, t.policy, t.request, t.decision, c.verifier.verifierId⟩]) a.approvalId =
        some ⟨a, t.policy, t.request, t.decision, c.verifier.verifierId⟩ :=
    @keyed_snoc_self _ (fun row : ApprovalRow => row.approval.approvalId) db.approvals
      ⟨a, t.policy, t.request, t.decision, c.verifier.verifierId⟩ hid
  simp only [appendApproval, bind_eq_ok, exists_unit, contractual_eq_ok, verifyAttestation, raiseIf_eq_ok, not_not,
    Bool.not_eq_false, pure_eq_ok, loadApprovalRow, demand_eq_ok]
  exact ⟨a, ha, hvouches, t, hw.texts, requireProposalBundle_eq_ok.mpr hb, _, hput, _,
    ⟨_, hread, readTexts_total hw.loads hverifier, rfl⟩, rfl, rfl⟩

theorem advanced_emptyHead {a : MemoryRevisionActivation} {approval : MemoryRevisionApproval}
    (htenant : a.tenantId = approval.tenantId) (hrepository : a.repositoryId = approval.repositoryId)
    (hmemory : a.memoryId = approval.memoryId) : advanced (emptyHead approval) a = headOf a := by
  simp only [advanced, emptyHead, headOf, htenant, hrepository, hmemory]

theorem selectHead_headOf {row : ActivationRow} {key : Str × Str × Str} (hhead : db.heads.get? key = some (headOf row.activation))
    (hrow : loadActivationRow codec db row.activation.activationId = .ok row)
    (hnumber : row.activation.revisionNumber ≠ 0) :
    selectHead codec db key = .ok (some ⟨row.activation.tenantId, row.activation.repositoryId, row.activation.memoryId,
      row.activation.revisionNumber, row.activation.revisionId, row.activation.activationId⟩) := by
  have hsame : (headOf row.activation).currentRevisionNumber ≠ 0 := hnumber
  unfold selectHead
  rw [hhead]
  dsimp only
  rw [if_neg hsame]
  simp only [bind_eq_ok, exists_unit, demand_eq_ok, raiseIf_eq_ok, not_or, not_not, pure_eq_ok]
  exact ⟨_, rfl, _, rfl, row, hrow, ⟨rfl, rfl, rfl, rfl, rfl⟩, rfl⟩

theorem predecessor_first {r : MemoryRevision} {approval : MemoryRevisionApproval}
    (hfresh : db.activationOf? r.revisionId = none)
    (hnone : db.heads.get? (headKey approval.tenantId approval.repositoryId approval.memoryId) = none)
    (hone : r.revisionNumber = 1) : predecessor codec db r approval = .ok (openHead db approval, none) := by
  simp only [predecessor, hfresh, selectHead, hnone, bind_eq_ok, hone]
  exact ⟨none, rfl, rfl⟩

theorem predecessor_next {r : MemoryRevision} {approval : MemoryRevisionApproval} {p : ActivationRow}
    (hfresh : db.activationOf? r.revisionId = none)
    (hhead : db.heads.get? (headKey approval.tenantId approval.repositoryId approval.memoryId) =
      some (headOf p.activation))
    (hload : loadActivationRow codec db p.activation.activationId = .ok p) (hpos : p.activation.revisionNumber ≠ 0)
    (hnumber : r.revisionNumber = p.activation.revisionNumber + 1)
    (hprevious : r.previousRevisionId = some p.activation.revisionId) :
    predecessor codec db r approval = .ok (db, some p.activation) := by
  simp only [predecessor, hfresh, selectHead_headOf hhead hload hpos, bind_eq_ok]
  refine ⟨_, rfl, ?_⟩
  simp only [bind_eq_ok, exists_unit, raiseIf_eq_ok, not_or, not_not, pure_eq_ok]
  exact ⟨⟨hnumber.symm, hprevious.symm⟩, p, hload, rfl⟩

theorem writeActivation_total {row : ActivationRow} {base : HeadRow}
    (hunseen : db.activation? row.activation.activationId = none) (hinsertable : insertable db row.activation)
    (hfits : fits (canonicalText codec.repr row.activation.toDict) = true)
    (htexts : Texts.fit ⟨row.policy, row.request, row.decision⟩ = true)
    (hread : readTexts codec row.policy row.attestationVerifiedBy "stored memory revision activation is invalid" = .ok ())
    (hhead : db.heads.get? (activationKey row.activation) = some base)
    (hnext : base.currentRevisionNumber + 1 = row.activation.revisionNumber)
    (hprevious : base.currentActivationId = row.activation.previousActivationId)
    (hadvanced : advanced base row.activation = headOf row.activation) :
    writeActivation codec db row =
      .ok ({ db with activations := db.activations ++ [row],
                     heads := db.heads.set (activationKey row.activation) (headOf row.activation) }, true) := by
  have hput : putActivation codec db row = .ok ({ db with activations := db.activations ++ [row] }, true) := by
    simp only [putActivation, hunseen, bind_eq_ok, exists_unit, raiseIf_eq_ok, not_or, not_not, Bool.not_eq_false,
      pure_eq_ok, and_true]
    exact ⟨hinsertable, hfits, htexts⟩
  have hadvance : advanceHead { db with activations := db.activations ++ [row] } row.activation =
      .ok { db with activations := db.activations ++ [row],
                    heads := db.heads.set (activationKey row.activation) (headOf row.activation) } := by
    simp only [advanceHead, bind_eq_ok, exists_unit, demand_eq_ok, raiseIf_eq_ok, not_or, not_not, pure_eq_ok]
    refine ⟨base, hhead, ⟨hnext, hprevious⟩, ?_⟩
    rw [← hadvanced]
    rfl
  have hload : loadActivationRow codec
      { db with activations := db.activations ++ [row],
                heads := db.heads.set (activationKey row.activation) (headOf row.activation) }
      row.activation.activationId = .ok row := by
    simp only [loadActivationRow, bind_eq_ok, exists_unit, demand_eq_ok, pure_eq_ok]
    exact ⟨row, @keyed_snoc_self _ (fun row : ActivationRow => row.activation.activationId) db.activations row hunseen,
      hread, rfl⟩
  have hcurrent : requireCurrent codec
      { db with activations := db.activations ++ [row],
                heads := db.heads.set (activationKey row.activation) (headOf row.activation) } row.activation = .ok () := by
    have hpos : row.activation.revisionNumber ≠ 0 := by omega
    simp only [requireCurrent, selectHead_headOf (Dict.get?_set_self _ _ _) hload hpos, bind_eq_ok, raiseIf_eq_ok, not_not]
    exact ⟨_, rfl, rfl⟩
  simp only [writeActivation, bind_eq_ok]
  refine ⟨_, hput, ?_⟩
  simp only [if_true, bind_eq_ok, exists_unit, pure_eq_ok]
  exact ⟨_, hadvance, hcurrent, rfl⟩

-- an activation that its predecessor, its approval and the unique columns let in
theorem appendActivation_total {c : ActivationCall} {a : MemoryRevisionActivation} {t t' : Texts} {opened : PublicationDb}
    {previous : Option MemoryRevisionActivation} {base : HeadRow} (hvouches : c.verifier.vouches = true)
    (hverifier : sound memoryIdMaxChars c.verifier.verifierId = true) (hb : Bundled db c.submission) {verifier : Str}
    (hv : sound memoryIdMaxChars verifier = true) (hw : Writable codec c.approvalGrant t)
    (hstored : db.approval? c.approval.approvalId = some ⟨c.approval, t.policy, t.request, t.decision, verifier⟩)
    (hpredecessor : predecessor codec db c.submission.revision c.approval = .ok (opened, previous))
    (ha : activateMemoryRevision hash bytes codec c.submission c.approval c.approvalGrant previous c.grant c.event = .ok a)
    (hw' : Writable codec c.grant t') (hfits : fits (canonicalText codec.repr a.toDict) = true)
    (hunseen : opened.activation? a.activationId = none) (hinsertable : insertable opened a)
    (hhead : opened.heads.get? (activationKey a) = some base) (hnext : base.currentRevisionNumber + 1 = a.revisionNumber)
    (hprevious : base.currentActivationId = a.previousActivationId) (hadvanced : advanced base a = headOf a) :
    appendActivation codec db hash bytes c =
      .ok ({ opened with
               activations := opened.activations ++ [⟨a, t'.policy, t'.request, t'.decision, c.verifier.verifierId⟩],
               heads := opened.heads.set (activationKey a) (headOf a) }, ⟨a, true, c.verifier.verifierId⟩) := by
  obtain ⟨row, hrow⟩ : ∃ row : ActivationRow, row = ⟨a, t'.policy, t'.request, t'.decision, c.verifier.verifierId⟩ :=
    ⟨_, rfl⟩
  have hactivation : row.activation = a := by rw [hrow]
  have hread : readTexts codec row.policy row.attestationVerifiedBy "stored memory revision activation is invalid" =
      .ok () := by
    rw [hrow]
    exact readTexts_total hw'.loads hverifier
  have htexts : Texts.fit ⟨row.policy, row.request, row.decision⟩ = true := by
    rw [hrow]
    exact hw'.fit
  subst hactivation
  have hwrite := writeActivation_total hunseen hinsertable hfits htexts hread hhead hnext hprevious hadvanced
  have hload : loadActivationRow codec
      { opened with activations := opened.activations ++ [row],
                    heads := opened.heads.set (activationKey row.activation) (headOf row.activation) }
      row.activation.activationId = .ok row := by
    simp only [loadActivationRow, bind_eq_ok, exists_unit, demand_eq_ok, pure_eq_ok]
    exact ⟨row, @keyed_snoc_self _ (fun row : ActivationRow => row.activation.activationId) opened.activations row hunseen,
      hread, rfl⟩
  rw [← hrow]
  simp only [appendActivation, bind_eq_ok, exists_unit, contractual_eq_ok, verifyAttestation, raiseIf_eq_ok, not_not,
    not_or, Bool.not_eq_false, pure_eq_ok, hpredecessor]
  refine ⟨hvouches, requireProposalBundle_eq_ok.mpr hb, ⟨c.approval, t.policy, t.request, t.decision, verifier⟩, ?_, t,
    hw.texts, ⟨rfl, rfl⟩, _, rfl, row.activation, ha, t', hw'.texts,
    ({ opened with activations := opened.activations ++ [row],
                   heads := opened.heads.set (activationKey row.activation) (headOf row.activation) }, true),
    ?_, row, hload, hrow, rfl⟩
  · simp only [loadApprovalRow, bind_eq_ok, exists_unit, demand_eq_ok, pure_eq_ok]
    exact ⟨_, hstored, readTexts_total hw.loads hv, rfl⟩
  · rw [← hrow]
    exact hwrite

end Accepting

section Sizes

variable {floatText : Double → Str} {codec : FloatCodec} {hash : TextHash} {actor client tenant : Str}

theorem slim_field {k : Str} {v : Json} {n : Nat} (hk : k.length ≤ 40) (h : Slim floatText n v) :
    Slim floatText (246 + n) (.obj [(k, v)]) := by
  have hone : Slim floatText (1 * (40 * 6 + n + 4) + 2) (.obj [(k, v)]) :=
    slim_obj (List.forall_mem_singleton.mpr hk) (List.forall_mem_singleton.mpr h)
  exact hone.mono (by omega)

theorem slim_one {v : Json} {n : Nat} (h : Slim floatText n v) : Slim floatText (n + 3) (.arr [v]) := by
  have hone : Slim floatText (1 * (n + 1) + 2) (.arr [v]) := slim_arr (List.forall_mem_singleton.mpr h)
  exact hone.mono (by omega)

theorem slim_none : Slim floatText 2 (.arr []) := by
  have hnone : Slim floatText (0 * (0 + 1) + 2) (.arr []) := @slim_arr floatText [] 0 (List.forall_mem_nil _)
  exact hnone.mono (by decide)

theorem canonicalTime_text (t : CanonicalTime) : canonicalTime t.text = t.text := canonicalTime_of_ok (canonical_time t)

theorem bindingNames_short : ∀ k ∈ Authorization.bindingNames, k.length ≤ 40 := by
  simp only [Authorization.bindingNames, List.forall_mem_cons]
  and_intros <;> first | exact short_lit (by decide) | exact List.forall_mem_nil _

theorem slim_publisherBinding (hactor : actor.length ≤ 128) (hclient : client.length ≤ 128)
    (htenant : sound memoryIdMaxChars tenant = true) :
    Slim codec.repr 75224 (.obj (publisherBinding actor client tenant).canonicalEntries) := by
  have hshort {s : Str} (hs : s.length ≤ 128) : Slim codec.repr 8114 (.str s) := (slim_short hs).mono (by decide)
  have hpermissions : Slim codec.repr 8114 (jsonStrings [lit "memory:activate", lit "memory:review"]) := by
    have hboth : Slim codec.repr (2 * (770 + 1) + 2) (jsonStrings [lit "memory:activate", lit "memory:review"]) := by
      refine slim_arr ?_
      rw [List.map_cons, List.map_cons, List.map_nil, List.forall_mem_cons, List.forall_mem_singleton]
      exact ⟨slim_short (by decide), slim_short (by decide)⟩
    exact hboth.mono (by decide)
  refine (@slim_record codec.repr _ Authorization.bindingNames _ 8114 rfl bindingNames_short rfl ?_).mono (by decide)
  simp only [RoleBinding.canonicalEntries, RoleBinding.entriesAt, publisherBinding, canonicalTime_text, List.map_cons,
    List.map_nil, List.forall_mem_cons, List.not_mem_nil, false_implies, implies_true, and_true]
  exact ⟨hshort (by decide), hshort hactor, hshort hclient, hshort (by decide), slim_scope (tenantScope_check htenant) rfl,
    hpermissions, hshort (by decide), hshort (length_of_time _), slim_null.mono (by decide)⟩

theorem policyNames_short : ∀ k ∈ Authorization.policyNames, k.length ≤ 40 := by
  simp only [Authorization.policyNames, List.forall_mem_cons]
  and_intros <;> first | exact short_lit (by decide) | exact List.forall_mem_nil _

theorem slim_publisherPolicy (hactor : actor.length ≤ 128) (hclient : client.length ≤ 128)
    (htenant : sound memoryIdMaxChars tenant = true) :
    Slim codec.repr 112708 (.obj (publisherPolicy actor client tenant).canonicalEntries) := by
  have hshort {s : Str} (hs : s.length ≤ 128) : Slim codec.repr 770 (.str s) := slim_short hs
  have hprincipal : Slim codec.repr 5072 (.obj (samplePrincipal actor none).entries) := by
    refine (@slim_record codec.repr _ Authorization.principalNames _ 770 rfl (by decide) rfl ?_).mono (by decide)
    simp only [Authorization.PrincipalIdentity.entries, samplePrincipal, List.map_cons, List.map_nil, List.forall_mem_cons,
      List.not_mem_nil, false_implies, implies_true, and_true]
    exact ⟨hshort hactor, hshort (by decide), hshort (by decide), slim_null.mono (by decide), hshort (by decide)⟩
  have hagent : Slim codec.repr 5072
      (.obj (Authorization.AgentClientIdentity.entries ⟨client, none, .service, .active⟩)) := by
    refine (@slim_record codec.repr _ Authorization.clientNames _ 770 rfl (by decide) rfl ?_).mono (by decide)
    simp only [Authorization.AgentClientIdentity.entries, List.map_cons, List.map_nil, List.forall_mem_cons,
      List.not_mem_nil, false_implies, implies_true, and_true]
    exact ⟨hshort hclient, slim_null.mono (by decide), hshort (by decide), hshort (by decide)⟩
  have hfront : Slim codec.repr 37235 (.obj ((publisherPolicy actor client tenant).canonicalEntries.take 7)) := by
    refine (@slim_record codec.repr _ (Authorization.policyNames.take 7) _ 5075 rfl
      (fun k hk => policyNames_short k (List.mem_of_mem_take hk)) rfl ?_).mono (by decide)
    have hempty : Slim codec.repr 5075 (.arr []) := slim_none.mono (by decide)
    have hversion {s : Str} (hs : s.length ≤ 128) : Slim codec.repr 5075 (.str s) := (hshort hs).mono (by decide)
    rw [AuthorizationPolicyBundle.canonicalEntries, AuthorizationPolicyBundle.entriesWith]
    simp only [List.take_succ_cons, List.take_zero, List.map_cons, List.map_nil, List.forall_mem_cons, List.not_mem_nil,
      false_implies, implies_true, and_true]
    exact ⟨hversion (by decide), hversion (show (lit "v1").length ≤ 128 by decide), slim_one hprincipal, slim_one hagent, hempty, hempty, hempty⟩
  have hback : Slim codec.repr 75473 (.obj [(lit "role_bindings",
      .arr [.obj (publisherBinding actor client tenant).canonicalEntries])]) :=
    slim_field (by decide) (slim_one (slim_publisherBinding hactor hclient htenant))
  have hentries : (publisherPolicy actor client tenant).canonicalEntries =
      (publisherPolicy actor client tenant).canonicalEntries.take 7 ++ [(lit "role_bindings",
        .arr [.obj (publisherBinding actor client tenant).canonicalEntries])] := rfl
  rw [hentries]
  exact slim_append hfront hback

theorem fits_of_Fits {text : Str} (h : fits text = true) : Authorization.Fits (1024 * 1024) text := by
  obtain ⟨n, hn, hle⟩ := (Option.any_eq_true _ _).mp h
  exact ⟨n, hn, of_decide_eq_true hle⟩

theorem publisherDecision_fits {d : AuthorizationDecision} (hcheck : d.check hash codec = .ok ())
    {t : CanonicalTime} (htime : d.decidedAt = t.text) (hmatched : d.matchedBindingIds = [lit "b"]) :
    ∃ document, decisionDict d = .ok document ∧ fits (canonicalText codec.repr document) = true := by
  obtain ⟨hid, hrequestSha, hpolicySha⟩ := decision_digests hcheck
  have hcanonical : canonicalRfc3339 d.decidedAt = .ok (canonicalTime d.decidedAt) := by
    rw [htime]
    exact canonicalTime_time t
  have hchecked := hcheck
  simp only [AuthorizationDecision.check, bind_eq_ok, exists_unit] at hchecked
  obtain ⟨hrequest, hrequestDigest, hpolicyDigest, hprincipal, hclient, htenant, hrepository, hidentifiers, -⟩ := hchecked
  obtain ⟨content, hcontent, hencodes⟩ := Authorization.encodes_content hrequest hrequestDigest hpolicyDigest hprincipal
    hclient htenant hrepository hidentifiers hcanonical
  have hshort {s : Str} (hs : s.length ≤ 128) : Slim codec.repr 776 (.str s) := (slim_short hs).mono (by decide)
  have hidentifier {value name : Str} (h : Authorization.identifier value name = .ok ()) : Slim codec.repr 776 (.str value) :=
    hshort (length_of_sound (Authorization.identifier_eq_ok.mp h))
  have hoptional {o : Option Str} {name : Str} (h : Authorization.optionalIdentifier o name = .ok ()) :
      Slim codec.repr 776 (nullable o) := by
    refine (slim_absent ?_).mono (by decide)
    rintro v rfl
    exact length_of_sound (Authorization.identifier_eq_ok.mp h)
  rw [AuthorizationDecision.content, hcanonical] at hcontent
  obtain rfl := Except.ok.inj hcontent
  refine ⟨_, by rw [decisionDict, AuthorizationDecision.content, hcanonical]; rfl,
    fits_of_slim (n := 15000) (encodes_cons hencodes (by rfl) (Migration.encodes_str (utf8_of_taggedHex authorizationStem hid)))
      ?_ (by decide)⟩
  refine (@slim_record codec.repr _ (lit "authorization_event_id" :: Authorization.decisionNames) _ 776 rfl (by decide) rfl
    ?_).mono (by decide)
  rw [hmatched, htime, canonicalTime_text]
  simp only [List.map_cons, List.map_nil, List.forall_mem_cons, List.not_mem_nil, false_implies, implies_true, and_true]
  exact ⟨hshort (length_of_taggedHex (by decide) hid), hshort (by decide), hidentifier hrequest,
    hshort (length_of_digest hrequestSha), hshort (length_of_digest hpolicySha), hidentifier hprincipal, hidentifier hclient,
    hoptional htenant, hoptional hrepository, hshort (by cases d.permission <;> decide), (slim_bool _).mono (by decide),
    hshort (by cases d.reason <;> decide),
    (slim_one (@slim_short codec.repr (lit "b") (by decide))).mono (by decide), hshort (length_of_time _)⟩

theorem publisher_writable {d : AuthorizationDecision} {permission : AuthorizationPermission}
    (hactor : sound memoryIdMaxChars actor = true) (hclient : sound memoryIdMaxChars client = true)
    (htenant : sound memoryIdMaxChars tenant = true) (hcheck : d.check hash codec = .ok ())
    (hpermission : permission ∈ Authorization.tenantOrRepositoryPermissions) {t : CanonicalTime}
    (htime : d.decidedAt = t.text) (hmatched : d.matchedBindingIds = [lit "b"]) :
    ∃ t, Writable codec ⟨publisherPolicy actor client tenant, publisherRequest actor client tenant permission, d⟩ t := by
  obtain ⟨hentries, hpolicy⟩ := publisherPolicy_valid hactor hclient htenant
  have hdated : (publisherPolicy actor client tenant).Dated :=
    List.forall_mem_singleton.mpr ⟨(canonicalTime_time sampleTime), fun _ h => by cases h⟩
  have hdocument : (publisherPolicy actor client tenant).toDict =
      .ok (.obj (publisherPolicy actor client tenant).canonicalEntries) := Authorization.toDict_eq_ok.mpr ⟨hdated, rfl⟩
  have hpolicyFits : fits (canonicalText codec.repr (.obj (publisherPolicy actor client tenant).canonicalEntries)) = true :=
    fits_of_slim (Authorization.encodes_of_portable (Authorization.portable_policy hentries hpolicy hdated))
      (slim_publisherPolicy (length_of_sound hactor) (length_of_sound hclient) htenant) (by decide)
  have hsize : size (.obj (publisherPolicy actor client tenant).canonicalEntries) ≤ 25000 :=
    show size (.obj (publisherPolicy [] [] []).canonicalEntries) ≤ 25000 by decide
  obtain ⟨request, hrequest, hrequestEncodes⟩ :=
    Authorization.encodes_request (publisherRequest_valid hactor hclient htenant hpermission) (canonicalTime_time sampleTime)
  obtain ⟨decision, hdecision, hdecisionFits⟩ := publisherDecision_fits hcheck htime hmatched
  have hrequestFits : fits (canonicalText codec.repr request) = true := by
    have hshort {s : Str} (hs : s.length ≤ 128) : Slim codec.repr 770 (.str s) := slim_short hs
    rw [AuthorizationRequest.toDict, publisherRequest, (canonicalTime_time sampleTime)] at hrequest
    obtain rfl := Except.ok.inj hrequest
    refine fits_of_slim (n := 7100) hrequestEncodes ?_ (by decide)
    refine (@slim_record codec.repr _ Authorization.requestNames _ 770 rfl (by decide) rfl ?_).mono (by decide)
    rw [canonicalTime_text]
    simp only [List.map_cons, List.map_nil, List.forall_mem_cons, List.not_mem_nil, false_implies, implies_true, and_true]
    exact ⟨hshort (by decide), hshort (length_of_sound hactor), hshort (length_of_sound hclient),
      hshort (length_of_sound htenant), slim_null.mono (by decide), hshort (by cases permission <;> decide),
      hshort (length_of_time _)⟩
  refine ⟨⟨canonicalText codec.repr (.obj (publisherPolicy actor client tenant).canonicalEntries),
    canonicalText codec.repr request, canonicalText codec.repr decision⟩, ?_, ?_, _,
    (Authorization.loads_dumped hentries hpolicy hdocument).mpr ⟨⟨fits_of_Fits hpolicyFits, hsize⟩, rfl⟩⟩
  · simp only [Grant.texts, Authorization.dumpsAuthorizationPolicy, hdocument, hrequest, hdecision, bind_eq_ok, pure_eq_ok]
    exact ⟨_, ⟨_, rfl, rfl⟩, _, rfl, _, rfl, rfl⟩
  · simp only [Texts.fit, hpolicyFits, hrequestFits, hdecisionFits, Bool.and_self]

theorem approvalNames_short : ∀ k ∈ lit "approval_id" :: approvalNames, k.length ≤ 40 := by
  simp only [approvalNames, List.forall_mem_cons]
  and_intros <;> first | exact short_lit (by decide) | exact List.forall_mem_nil _

theorem approvalFields_of_check {a : MemoryRevisionApproval} (h : a.check hash codec = .ok ())
    (hrepository : a.repositoryId = none) (hnumber : (decimal a.revisionNumber).length ≤ 20) :
    ApprovalFields a ∧ isApprovalId a.approvalId = true ∧ a.memoryRevisionApprovalId hash codec = .ok a.approvalId := by
  simp only [MemoryRevisionApproval.check, checkTarget, bind_eq_ok, exists_unit, derivedForm_eq_ok,
    publicationIdentifier_eq_ok, publicationDigest_eq_ok, raiseIf_eq_ok, not_not] at h
  obtain ⟨hid, hrevision, hmemory, hlineage, ⟨htenant, -⟩, hcontent, hevidence, happrover, hclient, hauthorization, hrequest,
    hpolicy, hattestation, _, hnamed, rfl⟩ := h
  exact ⟨⟨hrevision, hmemory, hlineage, hnumber, htenant, hrepository, hcontent, hevidence, happrover, hclient,
    hauthorization, hrequest, hpolicy, hattestation⟩, hid, hnamed⟩

theorem approval_fits {a : MemoryRevisionApproval} (h : a.check hash codec = .ok ()) (hrepository : a.repositoryId = none)
    (hnumber : (decimal a.revisionNumber).length ≤ 20) : fits (canonicalText codec.repr a.toDict) = true := by
  obtain ⟨hfields, hid, -⟩ := approvalFields_of_check h hrepository hnumber
  have hshort {s : Str} (hs : s.length ≤ 128) : Slim codec.repr 770 (.str s) := slim_short hs
  have habsent : Slim codec.repr 770 (nullable a.repositoryId) := by
    rw [hrepository]
    exact slim_null.mono (by decide)
  refine fits_of_slim (n := 20000) (encodes_cons hfields.encodes (by rfl)
    (Migration.encodes_str (utf8_of_taggedHex approvalStem hid))) ?_ (by decide)
  refine (@slim_record codec.repr _ (lit "approval_id" :: approvalNames) _ 770 rfl approvalNames_short rfl ?_).mono
    (by decide)
  simp only [MemoryRevisionApproval.unsigned, List.map_cons, List.map_nil, List.forall_mem_cons, List.not_mem_nil,
    false_implies, implies_true, and_true]
  exact ⟨hshort (length_of_taggedHex (by decide) hid), hshort (by decide), hshort (length_of_revisionId hfields.revisionId),
    hshort (length_of_sound hfields.memoryId), slim_count hnumber, slim_absent (length_of_lineage hfields.lineage),
    hshort (length_of_sound hfields.tenantId), habsent, hshort (length_of_digest hfields.content), hshort (length_of_digest hfields.evidence),
    hshort (length_of_sound hfields.approvedBy), hshort (length_of_sound hfields.client),
    hshort (length_of_taggedHex (by decide) hfields.authorization), hshort (length_of_digest hfields.request),
    hshort (length_of_digest hfields.policy), hshort (length_of_time _), hshort (length_of_digest hfields.attestation)⟩

theorem activationNames_short : ∀ k ∈ lit "activation_id" :: activationNames, k.length ≤ 40 := by
  simp only [activationNames, List.forall_mem_cons]
  and_intros <;> first | exact short_lit (by decide) | exact List.forall_mem_nil _

theorem activationFields_of_check {a : MemoryRevisionActivation} (h : a.check hash codec = .ok ())
    (hrepository : a.repositoryId = none) (hnumber : (decimal a.revisionNumber).length ≤ 20) :
    ActivationFields a ∧ isActivationId a.activationId = true ∧
      a.memoryRevisionActivationId hash codec = .ok a.activationId := by
  simp only [MemoryRevisionActivation.check, bind_eq_ok, exists_unit, derivedForm_eq_ok, publicationIdentifier_eq_ok,
    raiseIf_eq_ok, not_not] at h
  obtain ⟨hid, hrevision, happroval, hmemory, hlineage, hsequence, hrest⟩ := h
  rw [hsequence] at hrest
  split at hrest
  · rename_i hone
    simp only [checkTarget, bind_eq_ok, exists_unit, derivedForm_eq_ok, publicationIdentifier_eq_ok,
      publicationDigest_eq_ok, raiseIf_eq_ok, not_not] at hrest
    obtain ⟨hprevious, ⟨htenant, -⟩, hactivator, hclient, hauthorization, hrequest, hpolicy, hattestation, _, hnamed,
      rfl⟩ := hrest
    exact ⟨⟨hrevision, happroval, hmemory, hlineage, hnumber, hsequence, fun _ => hprevious,
      fun hlater => absurd hone hlater, htenant, hrepository, hactivator, hclient, hauthorization, hrequest, hpolicy,
      hattestation⟩, hid, hnamed⟩
  · rename_i hlater
    simp only [checkTarget, bind_eq_ok, exists_unit, derivedForm_eq_ok, publicationIdentifier_eq_ok,
      publicationDigest_eq_ok, raiseIf_eq_ok, not_not] at hrest
    obtain ⟨hprevious, ⟨htenant, -⟩, hactivator, hclient, hauthorization, hrequest, hpolicy, hattestation, _, hnamed,
      rfl⟩ := hrest
    exact ⟨⟨hrevision, happroval, hmemory, hlineage, hnumber, hsequence, fun hone => absurd hone hlater,
      fun _ => hprevious, htenant, hrepository, hactivator, hclient, hauthorization, hrequest, hpolicy, hattestation⟩, hid,
      hnamed⟩

theorem activation_fits {a : MemoryRevisionActivation} (h : a.check hash codec = .ok ()) (hrepository : a.repositoryId = none)
    (hnumber : (decimal a.revisionNumber).length ≤ 20) : fits (canonicalText codec.repr a.toDict) = true := by
  obtain ⟨hfields, hid, -⟩ := activationFields_of_check h hrepository hnumber
  have hshort {s : Str} (hs : s.length ≤ 128) : Slim codec.repr 770 (.str s) := slim_short hs
  have habsent : Slim codec.repr 770 (nullable a.repositoryId) := by
    rw [hrepository]
    exact slim_null.mono (by decide)
  have hprevious : Slim codec.repr 770 (nullable a.previousActivationId) :=
    slim_absent fun id hid => length_of_taggedHex (by decide) (hfields.previous id hid)
  refine fits_of_slim (n := 20000) (encodes_cons hfields.encodes (by rfl)
    (Migration.encodes_str (utf8_of_taggedHex activationStem hid))) ?_ (by decide)
  refine (@slim_record codec.repr _ (lit "activation_id" :: activationNames) _ 770 rfl activationNames_short rfl ?_).mono
    (by decide)
  simp only [MemoryRevisionActivation.unsigned, List.map_cons, List.map_nil, List.forall_mem_cons, List.not_mem_nil,
    false_implies, implies_true, and_true]
  exact ⟨hshort (length_of_taggedHex (by decide) hid), hshort (by decide), hshort (length_of_revisionId hfields.revisionId),
    hshort (length_of_taggedHex (by decide) hfields.approvalId), hshort (length_of_sound hfields.memoryId),
    slim_count hnumber, slim_absent (length_of_lineage hfields.lineage), slim_count (hfields.sequence ▸ hnumber), hprevious,
    hshort (length_of_sound hfields.tenantId), habsent, hshort (length_of_sound hfields.activatedBy),
    hshort (length_of_sound hfields.client), hshort (length_of_taggedHex (by decide) hfields.authorization),
    hshort (length_of_digest hfields.request), hshort (length_of_digest hfields.policy), hshort (length_of_time _),
    hshort (length_of_digest hfields.attestation)⟩

end Sizes

end Publication

end TraceBackedMemory
