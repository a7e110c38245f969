import TraceBackedMemory.Publication.Appending
import TraceBackedMemory.Publication.Tenants

namespace TraceBackedMemory

open Text Raising OrderBy Json Replay

namespace Publication

open EventContract (TextHash sampleFloats)

open Migration (AuthorizationScope keyed sound sound_lit Encodes)

open SemanticGate (taggedHex isRevisionId)

section Policies

variable {hash : TextHash} {bytes : ContentHash} {codec : FloatCodec} {tenant memory id : Str} {number : Nat}
  {previousId : Option Str} {previous : Option MemoryRevision} {t : CanonicalTime}

def policySubmission (r : MemoryRevision) (previous : Option MemoryRevision) : Submission :=
  ⟨r, previous, [], fun _ => none, fun _ => none⟩

def approvalAt (t : CanonicalTime) : ApprovalEvent := ⟨lit "approver", lit "client", t.text, sampleDigest 'a'⟩

def activationAt (t : CanonicalTime) : ActivationEvent := ⟨lit "activator", lit "client", t.text, sampleDigest 'a'⟩

def sampleVerifier : Verifier := ⟨lit "verifier", true⟩

-- a policy revision that its tenant may publish
structure PolicyFields (tenant memory id : Str) (number : Nat) (previousId : Option Str) : Prop where
  tenant : sound memoryIdMaxChars tenant = true
  memory : sound memoryIdMaxChars memory = true
  lineage : revisionLineageShape number previousId = .ok ()
  number : (decimal number).length ≤ 20
  revisionId : isRevisionId id = true

theorem PolicyFields.publishable (h : PolicyFields tenant memory id number previousId) :
    Publishable (policyRevision bytes tenant memory number previousId id) tenant :=
  ⟨h.revisionId, h.memory, h.lineage, h.number, h.tenant, rfl⟩

theorem policy_digest (h : PolicyFields tenant memory id number previousId) :
    ∃ digest, evidenceBundleSha256 (policyRevision bytes tenant memory number previousId id) (fun _ => none) (fun _ => none)
      hash codec = .ok digest ∧ validDigest digest = true := by
  have hencodes : Encodes (.obj [(lit "revision_id", .str id), (lit "fix_evidence", .null),
      (lit "regression_evidence", .arr [])]) := by
    refine Migration.encodes_obj ?_
    simp only [List.forall_mem_cons, List.not_mem_nil, false_implies, implies_true, and_true]
    exact ⟨⟨by rfl, Migration.encodes_str (utf8_of_taggedHex revisionStem h.revisionId)⟩, ⟨by rfl, rfl, rfl⟩, by rfl, rfl,
      rfl⟩
  exact Authorization.sha256_of_encodes hencodes

structure PolicyApproved (hash : TextHash) (bytes : ContentHash) (codec : FloatCodec) (s : Submission) (tenant : Str)
    (t : CanonicalTime) (g : Grant) (texts : Texts) (a : MemoryRevisionApproval) : Prop where
  approved : approveMemoryRevision hash bytes codec s g (approvalAt t) = .ok a
  approvedAt : a.approvedAt = t
  tenantId : a.tenantId = tenant
  repositoryId : a.repositoryId = none
  writable : Writable codec g texts
  fits : fits (canonicalText codec.repr a.toDict) = true

theorem policy_approved (hash : TextHash) (bytes : ContentHash) (codec : FloatCodec)
    (h : PolicyFields tenant memory id number previousId)
    (hl : lineage (policyRevision bytes tenant memory number previousId id) previous = .ok ())
    (ht : sampleTime.instant ≤ t.instant) :
    ∃ g texts a, PolicyApproved hash bytes codec
      (policySubmission (policyRevision bytes tenant memory number previousId id) previous) tenant t g texts a := by
  have hactor : sound memoryIdMaxChars (lit "approver") = true := sound_lit rfl
  have hclient : sound memoryIdMaxChars (lit "client") = true := sound_lit rfl
  have hproposer : lit "approver" ≠ lit "author" := by decide
  obtain ⟨digest, hdigest, hvalid⟩ := @policy_digest hash bytes codec _ _ _ _ _ h
  obtain ⟨d, hgrant, hcheck, htime, hmatched⟩ := @exists_grant _ _ _ hash codec hactor hclient h.tenant .memoryReview
    (by decide) t ht
  obtain ⟨texts, hwritable⟩ := @publisher_writable codec hash _ _ _ d .memoryReview hactor hclient h.tenant hcheck
    (by decide) t htime hmatched
  obtain ⟨a, ha⟩ := @approve_total hash bytes codec
    (policySubmission (policyRevision bytes tenant memory number previousId id) previous) _ (approvalAt t) _ digest t
    h.publishable hl (decide_eq_true ⟨rfl, rfl⟩) rfl hactor hclient hproposer rfl rfl ht hgrant hcheck hdigest hvalid
    validDigest_sample
  have happroved := approve_eq_ok ha
  have htarget : (tenant, none) = (a.tenantId, a.repositoryId) := Except.ok.inj happroved.target
  obtain ⟨htenant, hrepository⟩ := Prod.mk.inj htarget
  exact ⟨_, texts, a, ha, Except.ok.inj (happroved.approvedAt.symm.trans (publicationTime_time t _)), htenant.symm,
    hrepository.symm, hwritable, approval_fits happroved.checked hrepository.symm (happroved.revisionNumber ▸ h.number)⟩

structure PolicyActivated (hash : TextHash) (bytes : ContentHash) (codec : FloatCodec) (s : Submission)
    (approval : MemoryRevisionApproval) (approvalGrant : Grant) (previous : Option MemoryRevisionActivation)
    (t : CanonicalTime) (g : Grant) (texts : Texts) (a : MemoryRevisionActivation) : Prop where
  activated : activateMemoryRevision hash bytes codec s approval approvalGrant previous g (activationAt t) = .ok a
  activatedAt : a.activatedAt = t
  writable : Writable codec g texts
  fits : fits (canonicalText codec.repr a.toDict) = true

theorem PolicyApproved.activated {s : Submission} {approvalGrant : Grant} {approvalTexts : Texts}
    {approval : MemoryRevisionApproval} (h : PolicyApproved hash bytes codec s tenant t approvalGrant approvalTexts approval)
    (hf : PolicyFields tenant memory id number previousId)
    (hs : s = policySubmission (policyRevision bytes tenant memory number previousId id) previous)
    {last : Option MemoryRevisionActivation} (hl : activationLineage s.revision last = .ok ())
    (hlast : ∀ p ∈ last, isActivationId p.activationId = true) {u : CanonicalTime} (htime : t.instant ≤ u.instant)
    (ht : sampleTime.instant ≤ t.instant) :
    ∃ g texts a, PolicyActivated hash bytes codec s approval approvalGrant last u g texts a := by
  have hactor : sound memoryIdMaxChars (lit "activator") = true := sound_lit rfl
  have hclient : sound memoryIdMaxChars (lit "client") = true := sound_lit rfl
  have hproposer : lit "activator" ≠ lit "author" := by decide
  have happrover : lit "activator" ≠ lit "approver" := by decide
  subst hs
  obtain ⟨d, hgrant, hcheck, hdecided, hmatched⟩ := @exists_grant _ _ _ hash codec hactor hclient hf.tenant .memoryActivate
    (by decide) u (ht.trans htime)
  obtain ⟨texts, hwritable⟩ := @publisher_writable codec hash _ _ _ d .memoryActivate hactor hclient hf.tenant hcheck
    (by decide) u hdecided hmatched
  have happroved := approve_eq_ok h.approved
  have hevent : (⟨approval.approvedBy, approval.approvedViaClientId, approval.approvedAt.text,
      approval.approvalAttestationSha256⟩ : ApprovalEvent) = approvalAt t := by
    rw [happroved.approvedBy, happroved.approvedVia, h.approvedAt, happroved.attestation]
    rfl
  obtain ⟨a, ha, htaken⟩ := @activate_total hash bytes codec
    (policySubmission (policyRevision bytes tenant memory number previousId id) previous) approval approvalGrant _
    (activationAt u) _ u last hf.publishable hl hlast (by rw [hevent]; exact h.approved) hactor hclient
    (by rw [happroved.approvedBy, List.mem_pair, not_or]; exact ⟨hproposer, happrover⟩) rfl rfl
    (by rw [h.approvedAt]; exact htime) hgrant hcheck validDigest_sample
  have hactivated := activate_eq_ok ha
  refine ⟨_, texts, a, ha, htaken, hwritable, activation_fits hactivated.checked ?_ (hactivated.revisionNumber ▸ hf.number)⟩
  rw [hactivated.repositoryId, h.repositoryId]

end Policies

section Firsts

variable {hash : TextHash} {bytes : ContentHash} {tenant memory id : Str} {t u : CanonicalTime}

theorem serve_of_ok {codec : FloatCodec} {db : PublicationDb} {call : Call} {out : PublicationDb × Reply}
    (h : apply codec hash bytes db call = .ok out) : serve codec hash bytes db call = out.1 := by
  rw [serve, h]

theorem run_snoc {codec : FloatCodec} {calls : List Call} {call : Call} {out : PublicationDb × Reply}
    (h : apply codec hash bytes (run codec hash bytes calls) call = .ok out) :
    run codec hash bytes (calls ++ [call]) = out.1 := by
  rw [run, serveAll, List.foldl_append, List.foldl_cons, List.foldl_nil]
  exact serve_of_ok h

-- the tables after a first policy revision was published
structure PublishedFirst (hash : TextHash) (bytes : ContentHash) (r : MemoryRevision) (tenant : Str) (t u : CanonicalTime)
    (calls : List Call) (row : ApprovalRow) (last : ActivationRow) : Prop where
  proposals : (run sampleFloats hash bytes calls).proposals = [r]
  approvals : (run sampleFloats hash bytes calls).approvals = [row]
  activations : (run sampleFloats hash bytes calls).activations = [last]
  head : (run sampleFloats hash bytes calls).heads.get? (activationKey last.activation) = some (headOf last.activation)
  approved : ∃ g texts, PolicyApproved hash bytes sampleFloats (policySubmission r none) tenant t g texts row.approval
  activated : ∃ g, Activated hash bytes sampleFloats (policySubmission r none) row.approval g none (activationAt u)
    last.activation
  activatedAt : last.activation.activatedAt = u
  readable : readTexts sampleFloats last.policy last.attestationVerifiedBy "stored memory revision activation is invalid" =
    .ok ()

theorem exists_first (hash : TextHash) (bytes : ContentHash) (h : PolicyFields tenant memory id 1 none)
    (ht : sampleTime.instant ≤ t.instant) (hu : t.instant ≤ u.instant) : ∃ calls row last,
    PublishedFirst hash bytes (policyRevision bytes tenant memory 1 none id) tenant t u calls row last := by
  have hverifier : sound memoryIdMaxChars sampleVerifier.verifierId = true := sound_lit rfl
  obtain ⟨fixes, regressions, htables⟩ := @run_policyTables hash bytes _ _ _ h.tenant h.memory h.revisionId
  obtain ⟨g, texts, approval, happroved⟩ := policy_approved hash bytes sampleFloats h
    (lineage_eq_ok.mpr (.inl ⟨rfl, rfl⟩)) ht
  obtain ⟨g', texts', a, hactivated⟩ := happroved.activated h rfl (activationLineage_eq_ok.mpr (.inl ⟨rfl, rfl⟩))
    (fun p hp => absurd hp (Option.not_mem_none p)) hu ht
  have hnumber : (policyRevision bytes tenant memory 1 none id).revisionNumber = 1 := rfl
  have hcanonical : (policyRevision bytes tenant memory 1 none id).canonical = policyRevision bytes tenant memory 1 none id :=
    rfl
  have hnone : (policyRevision bytes tenant memory 1 none id).fixEvidenceId = none ∧
      (policyRevision bytes tenant memory 1 none id).regressionEvidenceIds = [] := ⟨rfl, rfl⟩
  obtain ⟨r, hr⟩ : ∃ r, r = policyRevision bytes tenant memory 1 none id := ⟨_, rfl⟩
  rw [← hr] at htables happroved hactivated hnumber hcanonical hnone ⊢
  have hbundled {db : PublicationDb} (hdb : db.proposals = [r]) : Bundled db (policySubmission r none) := by
    refine ⟨?_, fun p hp => absurd hp (Option.not_mem_none p), ?_, ?_⟩
    · rw [PublicationDb.proposal?, hdb]
      exact (@keyed_snoc_self _ MemoryRevision.revisionId [] r rfl).trans (congrArg some hcanonical.symm)
    · intro e he
      rw [policySubmission, hnone.1] at he
      exact absurd he (Option.not_mem_none e)
    · intro e he
      rw [policySubmission, hnone.2] at he
      exact absurd he List.not_mem_nil
  have happroval := @appendApproval_total sampleFloats hash bytes
    (run sampleFloats hash bytes [.storeProposal (policyProposal bytes tenant memory 1 none id)])
    ⟨policySubmission r none, g, approvalAt t, sampleVerifier⟩ approval texts happroved.approved rfl hverifier
    happroved.writable (hbundled (by rw [htables])) (by rw [htables]; rfl) (by rw [htables]; exact List.forall_mem_nil _)
    happroved.fits
  have hserved := @run_snoc hash bytes sampleFloats _
    (.appendApproval ⟨policySubmission r none, g, approvalAt t, sampleVerifier⟩) _ (map_eq_ok.mpr ⟨_, happroval, rfl⟩)
  obtain ⟨calls, hcalls⟩ : ∃ calls, calls = [Call.storeProposal (policyProposal bytes tenant memory 1 none id)] ++
      [.appendApproval ⟨policySubmission r none, g, approvalAt t, sampleVerifier⟩] := ⟨_, rfl⟩
  obtain ⟨row, hrow⟩ : ∃ row : ApprovalRow,
      row = ⟨approval, texts.policy, texts.request, texts.decision, sampleVerifier.verifierId⟩ := ⟨_, rfl⟩
  rw [← hcalls, htables, ← hrow] at hserved
  have hgranted := approve_eq_ok happroved.approved
  have hchanged := activate_eq_ok hactivated.activated
  have hkey : activationKey a = headKey approval.tenantId approval.repositoryId approval.memoryId := by
    rw [activationKey, hchanged.tenantId, hchanged.repositoryId, hchanged.memoryId, hgranted.memoryId]
  have hone : a.revisionNumber = 1 := hchanged.revisionNumber.trans hnumber
  have hprevious : a.previousActivationId = none := hchanged.previousActivationId
  have hopened : openHead (run sampleFloats hash bytes calls) approval =
      (run sampleFloats hash bytes calls).setHead (activationKey a) (emptyHead approval) := by
    rw [openHead, ← hkey, hserved]
    rfl
  have hinsertable : insertable ((run sampleFloats hash bytes calls).setHead (activationKey a) (emptyHead approval)) a := by
    rw [hserved]
    refine ⟨List.forall_mem_nil _, ⟨row, List.mem_singleton_self _, ?_, ?_, ?_, ?_⟩, ?_, ?_⟩
    · rw [hrow, hchanged.approvalId]
    · rw [hrow, hchanged.revisionId]
      exact hgranted.revisionId
    · rw [hrow, hkey]
    · rw [hrow, hchanged.revisionNumber]
      exact hgranted.revisionNumber
    · rw [hprevious]
      exact fun e he => absurd he (Option.not_mem_none e)
    · rw [if_pos hone]
      exact hprevious
  have hactivation := @appendActivation_total sampleFloats hash bytes (run sampleFloats hash bytes calls)
    ⟨policySubmission r none, approval, g, g', activationAt u, sampleVerifier⟩ a texts texts' _ none (emptyHead approval)
    rfl hverifier (hbundled (by rw [hserved])) sampleVerifier.verifierId hverifier happroved.writable
    (by rw [hserved, hrow]; exact @keyed_snoc_self _ (fun row : ApprovalRow => row.approval.approvalId) [] _ rfl)
    (predecessor_first (by rw [hserved]; rfl) (by rw [hserved]; rfl) hnumber) hactivated.activated hactivated.writable
    hactivated.fits (by rw [hopened, hserved]; rfl) (by rw [hopened]; exact hinsertable)
    (by rw [hopened]; exact Dict.get?_set_self _ _ _) hone.symm hprevious.symm
    (advanced_emptyHead hchanged.tenantId hchanged.repositoryId (hchanged.memoryId.trans hgranted.memoryId.symm))
  have hfinal := @run_snoc hash bytes sampleFloats calls
    (.appendActivation ⟨policySubmission r none, approval, g, g', activationAt u, sampleVerifier⟩) _
    (map_eq_ok.mpr ⟨_, hactivation, rfl⟩)
  obtain ⟨last, hlast⟩ : ∃ last : ActivationRow,
      last = ⟨a, texts'.policy, texts'.request, texts'.decision, sampleVerifier.verifierId⟩ := ⟨_, rfl⟩
  obtain ⟨done, hdone⟩ : ∃ done, done = calls ++
      [.appendActivation ⟨policySubmission r none, approval, g, g', activationAt u, sampleVerifier⟩] := ⟨_, rfl⟩
  have hactivationRow : last.activation = a := by rw [hlast]
  have happrovalRow : row.approval = approval := by rw [hrow]
  rw [← hdone, hopened, hserved, ← hlast] at hfinal
  subst hactivationRow happrovalRow
  refine ⟨done, row, last, ?_, ?_, ?_, ?_, ⟨g, texts, happroved⟩, ⟨g, hchanged⟩, hactivated.activatedAt, ?_⟩
  · rw [hfinal]
    rfl
  · rw [hfinal]
    rfl
  · rw [hfinal]
    rfl
  · rw [hfinal]
    exact Dict.get?_set_self _ _ _
  · rw [hlast]
    exact readTexts_total hactivated.writable.loads hverifier

end Firsts

section Names

variable {codec : FloatCodec}

-- a digest that tells texts of different lengths apart
def lengthTexts : TextHash where
  hexdigest s := List.replicate 64 (hexDigit (s.length % 16))
  length_hexdigest s := List.length_replicate
  hex_hexdigest s := by
    rw [List.all_replicate, if_neg (by decide)]
    exact isLowerHex_hexDigit (Nat.mod_lt _ (by decide))

theorem hexDigit_inj : ∀ m < 16, ∀ n < 16, hexDigit m = hexDigit n → m = n := by decide

theorem derivedId_length {stem : String} {v : Json} {i : Str} (h : derivedId lengthTexts codec stem v = .ok i) :
    i = lit stem ++ List.replicate 64 (hexDigit ((canonicalText codec.repr v).length % 16)) := by
  simp only [derivedId, Migration.canonicalSha256, bind_eq_ok, pure_eq_ok] at h
  obtain ⟨_, ⟨_, -, rfl⟩, rfl⟩ := h
  exact congrArg (lit stem ++ ·) (List.drop_left' (by decide))

theorem derivedId_ne {stem : String} {v w : Json} {i j : Str} (hi : derivedId lengthTexts codec stem v = .ok i)
    (hj : derivedId lengthTexts codec stem w = .ok j)
    (h : (canonicalText codec.repr v).length % 16 ≠ (canonicalText codec.repr w).length % 16) : i ≠ j := by
  rintro rfl
  have hsame := List.append_cancel_left ((derivedId_length hi).symm.trans (derivedId_length hj))
  have hdigit := congrArg List.head? hsame
  rw [List.head?_replicate, List.head?_replicate, if_neg (by decide), if_neg (by decide), Option.some.injEq] at hdigit
  exact h (hexDigit_inj _ (Nat.mod_lt _ (by decide)) _ (Nat.mod_lt _ (by decide)) hdigit)

theorem plain_lit {l : List Char} (h : (l.all fun c => decide (35 ≤ (cp c).val ∧ (cp c).val ≠ 92)) = true) :
    plain (lit (String.ofList l)) := by
  rw [Migration.lit_ofList]
  exact plain_of_word (List.forall_mem_map.mpr fun c hc => of_decide_eq_true (List.all_eq_true.mp h c hc))

theorem length_hex {floatText : Double → Str} {stem : String} {s : Str} (hstem : plain (lit stem)) (h : taggedHex stem s = true) :
    (canonicalText floatText (.str s)).length = (lit stem).length + 66 := by
  simp only [taggedHex, Bool.and_eq_true, decide_eq_true_eq, List.isPrefixOf_iff_prefix] at h
  obtain ⟨⟨hlength, rest, rfl⟩, hhex⟩ := h
  rw [List.drop_left] at hhex
  rw [canonicalText, length_quoted (plain_append hstem (plain_of_hex hhex)), hlength]

theorem plain_digest : plain (lit "sha256:") := plain_lit rfl

theorem length_digest {floatText : Double → Str} {s : Str} (h : validDigest s = true) :
    (canonicalText floatText (.str s)).length = 73 := by
  simp only [validDigest, Bool.and_eq_true, decide_eq_true_eq, List.isPrefixOf_iff_prefix] at h
  obtain ⟨⟨hlength, rest, rfl⟩, hhex⟩ := h
  have hdrop : (lit "sha256:" ++ rest).drop 7 = rest := List.drop_left' (by decide)
  rw [hdrop] at hhex
  rw [canonicalText, length_quoted (plain_append plain_digest (plain_of_hex hhex)), hlength]

theorem plain_revision : plain (lit "memory_revision_sha256_") := plain_lit rfl

theorem plain_approval : plain (lit "memory_approval_sha256_") := plain_lit rfl

theorem plain_activation : plain (lit "memory_activation_sha256_") := plain_lit rfl

theorem plain_authorization : plain (lit "authz_sha256_") := plain_lit rfl

theorem length_null {floatText : Double → Str} : (canonicalText floatText .null).length = 4 := by
  rw [canonicalText]
  decide

theorem length_count {floatText : Double → Str} (n : Nat) :
    (canonicalText floatText (.num (.int n))).length = (decimal n).length := by
  rw [canonicalText, decimalInt, if_neg (by omega), Int.natAbs_natCast]

theorem length_approvals {a b : MemoryRevisionApproval} (ha : ApprovalFields a) (hb : ApprovalFields b)
    (hmemory : b.memoryId = a.memoryId) (htenant : b.tenantId = a.tenantId) (hactor : b.approvedBy = a.approvedBy)
    (hclient : b.approvedViaClientId = a.approvedViaClientId) (htime : b.approvedAt = a.approvedAt)
    (hnumber : (decimal b.revisionNumber).length = (decimal a.revisionNumber).length) (hfirst : a.previousRevisionId = none)
    {id : Str} (hlater : b.previousRevisionId = some id) (hid : isRevisionId id = true) :
    (canonicalText codec.repr (.obj b.unsigned)).length = (canonicalText codec.repr (.obj a.unsigned)).length + 85 := by
  have hstem : (lit "memory_revision_sha256_").length = 23 := by decide
  rw [length_obj, length_obj]
  simp only [MemoryRevisionApproval.unsigned, List.map_cons, List.map_nil, List.sum_cons, List.sum_nil, fieldLength,
    List.length_cons, List.length_nil, hmemory, htenant, hactor, hclient, htime, hfirst, hlater, ha.repositoryId,
    hb.repositoryId, Migration.nullable, Option.elim_some, Option.elim_none, length_null, length_count, hnumber, length_hex plain_revision ha.revisionId,
    length_hex plain_revision hb.revisionId, length_hex plain_revision hid, length_digest ha.content,
    length_digest hb.content, length_digest ha.evidence, length_digest hb.evidence,
    length_hex plain_authorization ha.authorization, length_hex plain_authorization hb.authorization,
    length_digest ha.request, length_digest hb.request, length_digest ha.policy, length_digest hb.policy,
    length_digest ha.attestation, length_digest hb.attestation, hstem]
  omega

theorem length_activations {a b : MemoryRevisionActivation} (ha : ActivationFields a) (hb : ActivationFields b)
    (hmemory : b.memoryId = a.memoryId) (htenant : b.tenantId = a.tenantId) (hactor : b.activatedBy = a.activatedBy)
    (hclient : b.activatedViaClientId = a.activatedViaClientId)
    (htime : b.activatedAt.text.length = a.activatedAt.text.length) (hplain : plain a.activatedAt.text)
    (hplain' : plain b.activatedAt.text) (hnumber : (decimal b.revisionNumber).length = (decimal a.revisionNumber).length)
    (hfirst : a.previousRevisionId = none) (hopening : a.previousActivationId = none) {id last : Str}
    (hlater : b.previousRevisionId = some id) (hid : isRevisionId id = true) (hnext : b.previousActivationId = some last)
    (hlast : isActivationId last = true) :
    (canonicalText codec.repr (.obj b.unsigned)).length = (canonicalText codec.repr (.obj a.unsigned)).length + 172 := by
  have hrevision : (lit "memory_revision_sha256_").length = 23 := by decide
  have hactivation : (lit "memory_activation_sha256_").length = 25 := by decide
  have htimes : (canonicalText codec.repr (.str b.activatedAt.text)).length =
      (canonicalText codec.repr (.str a.activatedAt.text)).length := by
    rw [canonicalText, canonicalText, length_quoted hplain, length_quoted hplain', htime]
  rw [length_obj, length_obj]
  simp only [MemoryRevisionActivation.unsigned, List.map_cons, List.map_nil, List.sum_cons, List.sum_nil, fieldLength,
    List.length_cons, List.length_nil, hmemory, htenant, hactor, hclient, htimes, hfirst, hopening, hlater, hnext,
    ha.repositoryId, hb.repositoryId, ha.sequence, hb.sequence, Migration.nullable, Option.elim_some, Option.elim_none,
    length_null, length_count, hnumber, length_hex plain_revision ha.revisionId, length_hex plain_revision hb.revisionId,
    length_hex plain_revision hid, length_hex plain_activation hlast, length_hex plain_approval ha.approvalId,
    length_hex plain_approval hb.approvalId, length_hex plain_authorization ha.authorization,
    length_hex plain_authorization hb.authorization, length_digest ha.request, length_digest hb.request,
    length_digest ha.policy, length_digest hb.policy, length_digest ha.attestation, length_digest hb.attestation, hrevision,
    hactivation]
  omega

variable {bytes : ContentHash} {tenant other memory : Str}

theorem length_scope (h : (canonicalText codec.repr (.str tenant)).length = (canonicalText codec.repr (.str other)).length) :
    (canonicalText codec.repr (.obj (AuthorizationScope.entries ⟨.tenant, some tenant, none, []⟩))).length =
      (canonicalText codec.repr (.obj (AuthorizationScope.entries ⟨.tenant, some other, none, []⟩))).length := by
  rw [length_obj, length_obj]
  simp only [AuthorizationScope.entries, List.map_cons, List.map_nil, List.sum_cons, List.sum_nil, fieldLength,
    List.length_cons, List.length_nil, Migration.nullable, Option.elim_some, h]

theorem length_drafts (h : (canonicalText codec.repr (.str tenant)).length = (canonicalText codec.repr (.str other)).length)
    {id : Str} (hid : isRevisionId id = true) :
    (canonicalText codec.repr (.obj (policyDraft bytes tenant memory 2 (some id)).unsigned)).length =
      (canonicalText codec.repr (.obj (policyDraft bytes other memory 1 none).unsigned)).length + 85 := by
  have hrevision : (lit "memory_revision_sha256_").length = 23 := by decide
  have hone : (decimal 1).length = 1 := by decide
  have htwo : (decimal 2).length = 1 := by decide
  rw [length_obj, length_obj]
  simp only [MemoryRevision.unsigned, policyDraft, List.map_cons, List.map_nil, List.sum_cons, List.sum_nil, fieldLength,
    List.length_cons, List.length_nil, length_scope h, Migration.nullable, Option.elim_some, Option.elim_none, length_null,
    length_count, hone, htwo, length_hex plain_revision hid, hrevision]
  omega

end Names

section Seconds

variable {bytes : ContentHash} {tenant other memory id later : Str} {t u : CanonicalTime}

-- two policy revisions of one memory, the second after the first
structure Drafted (bytes : ContentHash) (tenant other memory id later : Str) : Prop where
  distinct : id ≠ later
  first : PolicyFields tenant memory id 1 none
  second : PolicyFields other memory later 2 (some id)
  checked : (policyRevision bytes tenant memory 1 none id).check lengthTexts sampleFloats = .ok ()
  checkedNext : (policyRevision bytes other memory 2 (some id) later).check lengthTexts sampleFloats = .ok ()

theorem exists_drafted (bytes : ContentHash) (htenant : sound memoryIdMaxChars tenant = true)
    (hother : sound memoryIdMaxChars other = true) (hmemory : sound memoryIdMaxChars memory = true)
    (h : (canonicalText sampleFloats.repr (.str other)).length = (canonicalText sampleFloats.repr (.str tenant)).length) :
    ∃ id later, Drafted bytes tenant other memory id later := by
  have hone : (decimal 1).length ≤ 20 := by decide
  have htwo : (decimal 2).length ≤ 20 := by decide
  have hfirst (id : Str) : DraftFields (policyRevision bytes tenant memory 1 none id) :=
    policyRevision_fields htenant hmemory rfl hone id
  obtain ⟨id, hid, htagged⟩ := @DraftFields.named lengthTexts sampleFloats _ (hfirst [])
  have hlineage : revisionLineageShape 2 (some id) = .ok () := by
    simp only [revisionLineageShape, bind_eq_ok, exists_unit, raiseIf_eq_ok]
    exact ⟨by decide, derivedForm_eq_ok.mpr htagged⟩
  have hsecond (later : Str) : DraftFields (policyRevision bytes other memory 2 (some id) later) :=
    policyRevision_fields hother hmemory hlineage htwo later
  obtain ⟨later, hlater, htagged'⟩ := @DraftFields.named lengthTexts sampleFloats _ (hsecond [])
  have hlength := @length_drafts sampleFloats bytes other tenant memory h id htagged
  have hdistinct : id ≠ later := derivedId_ne hid hlater (by
    change (canonicalText sampleFloats.repr (.obj (policyDraft bytes tenant memory 1 none).unsigned)).length % 16 ≠
      (canonicalText sampleFloats.repr (.obj (policyDraft bytes other memory 2 (some id)).unsigned)).length % 16
    omega)
  exact ⟨id, later, hdistinct, ⟨htenant, hmemory, rfl, hone, htagged⟩, ⟨hother, hmemory, hlineage, htwo, htagged'⟩,
    (hfirst id).check hid (Option.some_ne_none _).symm,
    (hsecond later).check hlater fun hself => hdistinct (Option.some.inj hself)⟩

variable {calls : List Call} {row : ApprovalRow} {last : ActivationRow}

theorem Drafted.stored (hd : Drafted bytes tenant other memory id later)
    (h : PublishedFirst lengthTexts bytes (policyRevision bytes tenant memory 1 none id) tenant t u calls row last) :
    ∃ fixes regressions, run sampleFloats lengthTexts bytes
        (calls ++ [.storeProposal (policyProposal bytes other memory 2 (some id) later)]) =
      { run sampleFloats lengthTexts bytes calls with
          fixes := fixes, regressions := regressions,
          proposals := [policyRevision bytes tenant memory 1 none id,
            policyRevision bytes other memory 2 (some id) later] } := by
  have hnone : (run sampleFloats lengthTexts bytes calls).proposal? later = none := by
    rw [PublicationDb.proposal?, Migration.keyed_eq_none, h.proposals, List.map_singleton, List.mem_singleton]
    exact hd.distinct.symm
  have hslot : ¬slotTaken (run sampleFloats lengthTexts bytes calls) (policyRevision bytes other memory 2 (some id) later) := by
    rintro ⟨p, hp, -, hnumber⟩
    rw [h.proposals, List.mem_singleton] at hp
    rw [hp] at hnumber
    cases hnumber
  have hparent : parentContinues (run sampleFloats lengthTexts bytes calls)
      (policyRevision bytes other memory 2 (some id) later) := by
    have htwo : (policyRevision bytes other memory 2 (some id) later).revisionNumber ≠ 1 := show 2 ≠ 1 by decide
    unfold parentContinues
    rw [if_neg htwo, h.proposals]
    exact ⟨_, List.mem_singleton_self _, rfl, rfl, rfl⟩
  obtain ⟨out, hout⟩ := storeProposal_accepts.mpr ⟨policyProposal_sound other memory 2 (some id) later, .inr ⟨hnone,
    policyProposal_admissible hd.second.tenant hd.second.memory hd.second.lineage hd.second.number hd.second.revisionId _,
    hslot, hparent⟩⟩
  have hserved := @run_snoc lengthTexts bytes sampleFloats calls
    (.storeProposal (policyProposal bytes other memory 2 (some id) later)) _ (map_eq_ok.mpr ⟨_, hout, rfl⟩)
  obtain ⟨-, ⟨⟨found, hfound, -⟩, -⟩ | ⟨-, -, -, -, hinserted⟩⟩ := storeProposal_eq_ok hout
  · rw [show (policyProposal bytes other memory 2 (some id) later).revision.revisionId = later from rfl, hnone] at hfound
    cases hfound
  · have htables := hserved.trans hinserted.tables
    rw [h.proposals] at htables
    exact ⟨_, _, htables⟩

theorem PublishedFirst.approval_fields (h : PublishedFirst lengthTexts bytes (policyRevision bytes tenant memory 1 none id)
    tenant t u calls row last) : ApprovalFields row.approval ∧ row.approval.approvedAt = t ∧
      row.approval.approvedBy = lit "approver" ∧ row.approval.approvedViaClientId = lit "client" ∧
        row.approval.tenantId = tenant ∧ row.approval.repositoryId = none ∧ row.approval.memoryId = memory ∧
          row.approval.revisionNumber = 1 ∧ row.approval.previousRevisionId = none ∧ row.approval.revisionId = id ∧
            row.approval.memoryRevisionApprovalId lengthTexts sampleFloats = .ok row.approval.approvalId := by
  obtain ⟨g, texts, happroval⟩ := h.approved
  have hgranted := approve_eq_ok happroval.approved
  have hnumber : row.approval.revisionNumber = 1 := hgranted.revisionNumber
  obtain ⟨hfields, -, hnamed⟩ := approvalFields_of_check hgranted.checked happroval.repositoryId
    (by rw [hnumber]; decide)
  exact ⟨hfields, happroval.approvedAt, hgranted.approvedBy, hgranted.approvedVia, happroval.tenantId,
    happroval.repositoryId, hgranted.memoryId, hnumber, hgranted.previousRevisionId, hgranted.revisionId, hnamed⟩

theorem PolicyApproved.fresh (hd : Drafted bytes tenant tenant memory id later)
    (h : PublishedFirst lengthTexts bytes (policyRevision bytes tenant memory 1 none id) tenant t u calls row last)
    {previous : Option MemoryRevision} {g : Grant} {texts : Texts} {a : MemoryRevisionApproval}
    (ha : PolicyApproved lengthTexts bytes sampleFloats
      (policySubmission (policyRevision bytes tenant memory 2 (some id) later) previous) tenant t g texts a) :
    row.approval.approvalId ≠ a.approvalId := by
  obtain ⟨hfields, htime, hactor, hclient, htenant, -, hmemory, hnumber, hprevious, -, hnamed⟩ := h.approval_fields
  have hgranted := approve_eq_ok ha.approved
  have htwo : a.revisionNumber = 2 := hgranted.revisionNumber
  have hbefore : a.previousRevisionId = some id := hgranted.previousRevisionId
  obtain ⟨hfields', -, hnamed'⟩ := approvalFields_of_check hgranted.checked ha.repositoryId (by rw [htwo]; decide)
  have hlength := @length_approvals sampleFloats _ _ hfields hfields' (hgranted.memoryId.trans hmemory.symm)
    (ha.tenantId.trans htenant.symm) (hgranted.approvedBy.trans hactor.symm) (hgranted.approvedVia.trans hclient.symm)
    (ha.approvedAt.trans htime.symm) (by rw [hnumber, htwo]; decide) hprevious _ hbefore hd.first.revisionId
  exact derivedId_ne hnamed hnamed' (by omega)

theorem PublishedFirst.activation_fields (h : PublishedFirst lengthTexts bytes (policyRevision bytes tenant memory 1 none id)
    tenant t u calls row last) : ActivationFields last.activation ∧ isActivationId last.activation.activationId = true ∧
      last.activation.memoryRevisionActivationId lengthTexts sampleFloats = .ok last.activation.activationId := by
  obtain ⟨-, -, -, -, -, hrepository, -⟩ := h.approval_fields
  obtain ⟨g, hactivated⟩ := h.activated
  have hnumber : last.activation.revisionNumber = 1 := hactivated.revisionNumber
  exact activationFields_of_check hactivated.checked (hactivated.repositoryId.trans hrepository) (by rw [hnumber]; decide)

theorem PolicyActivated.fresh {w : CanonicalTime} (hd : Drafted bytes tenant tenant memory id later)
    (h : PublishedFirst lengthTexts bytes (policyRevision bytes tenant memory 1 none id) tenant t u calls row last)
    {previous : Option MemoryRevision} {approval : MemoryRevisionApproval} {approvalGrant g : Grant} {texts : Texts}
    {a : MemoryRevisionActivation} (htenant : approval.tenantId = tenant) (hrepository : approval.repositoryId = none)
    (ha : PolicyActivated lengthTexts bytes sampleFloats
      (policySubmission (policyRevision bytes tenant memory 2 (some id) later) previous) approval approvalGrant
      (some last.activation) w g texts a) (hlength : w.text.length = u.text.length) (hu : plain u.text) (hw : plain w.text) :
    last.activation.activationId ≠ a.activationId := by
  obtain ⟨hfields, hid, hnamed⟩ := h.activation_fields
  obtain ⟨-, -, -, -, htenant', -⟩ := h.approval_fields
  obtain ⟨_, hfirst⟩ := h.activated
  have hsecond := activate_eq_ok ha.activated
  have hone : last.activation.revisionNumber = 1 := hfirst.revisionNumber
  have htwo : a.revisionNumber = 2 := hsecond.revisionNumber
  obtain ⟨hfields', -, hnamed'⟩ := activationFields_of_check hsecond.checked (hsecond.repositoryId.trans hrepository)
    (by rw [htwo]; decide)
  have hlengths := @length_activations sampleFloats _ _ hfields hfields' (hsecond.memoryId.trans hfirst.memoryId.symm)
    (hsecond.tenantId.trans (htenant.trans (htenant'.symm.trans hfirst.tenantId.symm)))
    (hsecond.activatedBy.trans hfirst.activatedBy.symm) (hsecond.activatedVia.trans hfirst.activatedVia.symm)
    (by rw [ha.activatedAt, h.activatedAt, hlength]) (by rw [h.activatedAt]; exact hu) (by rw [ha.activatedAt]; exact hw)
    (by rw [hone, htwo]; decide) hfirst.previousRevisionId hfirst.previousActivationId _ _ hsecond.previousRevisionId
    hd.first.revisionId hsecond.previousActivationId hid
  exact derivedId_ne hnamed hnamed' (by omega)

theorem Drafted.bundled (hd : Drafted bytes tenant other memory id later) {db : PublicationDb}
    (hdb : db.proposals = [policyRevision bytes tenant memory 1 none id, policyRevision bytes other memory 2 (some id) later]) :
    Bundled db (policySubmission (policyRevision bytes other memory 2 (some id) later)
      (some (policyRevision bytes tenant memory 1 none id))) := by
  refine ⟨?_, ?_, fun e he => absurd he (Option.not_mem_none e), List.forall_mem_nil _⟩
  · rw [PublicationDb.proposal?, hdb]
    refine @keyed_snoc_self _ MemoryRevision.revisionId [policyRevision bytes tenant memory 1 none id]
      (policyRevision bytes other memory 2 (some id) later) ?_
    rw [Migration.keyed_eq_none, List.map_singleton, List.mem_singleton]
    exact hd.distinct.symm
  · rintro p hp
    obtain rfl := Option.some.inj hp
    rw [PublicationDb.proposal?, hdb]
    exact List.find?_cons_of_pos (decide_eq_true rfl)

theorem exists_second (hd : Drafted bytes tenant tenant memory id later)
    (h : PublishedFirst lengthTexts bytes (policyRevision bytes tenant memory 1 none id) tenant t u calls row last)
    (ht : sampleTime.instant ≤ t.instant) {w : CanonicalTime} (hw : t.instant ≤ w.instant)
    (hlength : w.text.length = u.text.length) (hu : plain u.text) (hplain : plain w.text) :
    ∃ done second, (run sampleFloats lengthTexts bytes done).activations = [last, second] ∧
      second.activation.activatedAt = w ∧ activationKey second.activation = activationKey last.activation := by
  have hverifier : sound memoryIdMaxChars sampleVerifier.verifierId = true := sound_lit rfl
  obtain ⟨-, -, -, -, htenant, hrepository, hmemory, hnumber, -, hrevision, -⟩ := h.approval_fields
  obtain ⟨hfields, hactivationId, -⟩ := h.activation_fields
  obtain ⟨_, hfirst⟩ := h.activated
  obtain ⟨fixes, regressions, htables⟩ := hd.stored h
  obtain ⟨stored, hstored⟩ : ∃ stored, stored = calls ++ [.storeProposal (policyProposal bytes tenant memory 2 (some id) later)] :=
    ⟨_, rfl⟩
  rw [← hstored] at htables
  have hsucceeds : Succeeds (policyRevision bytes tenant memory 2 (some id) later)
      (policyRevision bytes tenant memory 1 none id) := ⟨rfl, rfl, rfl, rfl, rfl, le_rfl⟩
  have htwo : (policyRevision bytes tenant memory 2 (some id) later).revisionNumber ≠ 1 := show 2 ≠ 1 by decide
  obtain ⟨g, texts, approval, happroved⟩ := policy_approved lengthTexts bytes sampleFloats hd.second
    (lineage_eq_ok.mpr (.inr ⟨htwo, _, rfl, hsucceeds⟩)) ht
  have hgranted := approve_eq_ok happroved.approved
  have hdistinct := happroved.fresh hd h
  have hbundled := hd.bundled (by rw [htables] : (run sampleFloats lengthTexts bytes stored).proposals = _)
  have happroval := @appendApproval_total sampleFloats lengthTexts bytes (run sampleFloats lengthTexts bytes stored)
    ⟨policySubmission (policyRevision bytes tenant memory 2 (some id) later)
      (some (policyRevision bytes tenant memory 1 none id)), g, approvalAt t, sampleVerifier⟩ approval texts
    happroved.approved rfl hverifier happroved.writable hbundled
    (by
      rw [PublicationDb.approval?, Migration.keyed_eq_none, htables, h.approvals, List.map_singleton, List.mem_singleton]
      exact hdistinct.symm)
    (by
      rw [htables, h.approvals, List.forall_mem_singleton, hrevision, hgranted.revisionId]
      exact hd.distinct)
    happroved.fits
  have hserved := @run_snoc lengthTexts bytes sampleFloats stored (.appendApproval
    ⟨policySubmission (policyRevision bytes tenant memory 2 (some id) later)
      (some (policyRevision bytes tenant memory 1 none id)), g, approvalAt t, sampleVerifier⟩) _
    (map_eq_ok.mpr ⟨_, happroval, rfl⟩)
  obtain ⟨granted, hgrantedCalls⟩ : ∃ granted, granted = stored ++ [.appendApproval
    ⟨policySubmission (policyRevision bytes tenant memory 2 (some id) later)
      (some (policyRevision bytes tenant memory 1 none id)), g, approvalAt t, sampleVerifier⟩] := ⟨_, rfl⟩
  obtain ⟨second, hsecond⟩ : ∃ second : ApprovalRow,
      second = ⟨approval, texts.policy, texts.request, texts.decision, sampleVerifier.verifierId⟩ := ⟨_, rfl⟩
  rw [← hgrantedCalls, htables, ← hsecond] at hserved
  have happrovals : (run sampleFloats lengthTexts bytes granted).approvals = [row] ++ [second] := by rw [hserved, h.approvals]
  have hactivations : (run sampleFloats lengthTexts bytes granted).activations = [last] := by rw [hserved, h.activations]
  have hhead : (run sampleFloats lengthTexts bytes granted).heads.get? (activationKey last.activation) =
      some (headOf last.activation) := by rw [hserved, h.head]
  have hkey : headKey approval.tenantId approval.repositoryId approval.memoryId = activationKey last.activation := by
    rw [activationKey, happroved.tenantId, happroved.repositoryId, hgranted.memoryId, hfirst.tenantId, hfirst.repositoryId,
      hfirst.memoryId, htenant, hrepository]
    rfl
  have hone : last.activation.revisionNumber = 1 := hfirst.revisionNumber
  have hlineage : activationLineage (policyRevision bytes tenant memory 2 (some id) later) (some last.activation) = .ok () := by
    refine activationLineage_eq_ok.mpr (.inr ⟨htwo, _, rfl, congrArg some hfirst.revisionId, hfirst.memoryId, ?_, ?_, ?_, ?_⟩)
    · rw [hone]
      rfl
    · rw [hfields.sequence, hone]
      rfl
    · rw [hfirst.tenantId, htenant]
      rfl
    · rw [hfirst.repositoryId, hrepository]
      rfl
  obtain ⟨g', texts', a, hactivated⟩ := happroved.activated hd.second rfl hlineage
    (fun p hp => Option.some.inj hp ▸ hactivationId) hw ht
  have hchanged := activate_eq_ok hactivated.activated
  have hfresh := hactivated.fresh hd h happroved.tenantId happroved.repositoryId hlength hu hplain
  have hlater : a.revisionNumber = 2 := hchanged.revisionNumber
  have hsame : activationKey a = activationKey last.activation := by
    rw [← hkey, activationKey, hchanged.tenantId, hchanged.repositoryId, hchanged.memoryId, hgranted.memoryId]
  have hload : loadActivationRow sampleFloats (run sampleFloats lengthTexts bytes granted) last.activation.activationId =
      .ok last := by
    simp only [loadActivationRow, bind_eq_ok, exists_unit, demand_eq_ok, pure_eq_ok]
    refine ⟨last, ?_, h.readable, rfl⟩
    rw [PublicationDb.activation?, hactivations]
    exact @keyed_snoc_self _ (fun row : ActivationRow => row.activation.activationId) [] last rfl
  have hinsertable : insertable (run sampleFloats lengthTexts bytes granted) a := by
    refine ⟨?_, ⟨second, ?_, ?_, ?_, ?_, ?_⟩, ?_, ?_⟩
    · rw [hactivations, List.forall_mem_singleton, hfirst.approvalId, hchanged.approvalId, hfirst.revisionId,
        hchanged.revisionId, hone, hlater]
      exact ⟨hdistinct, hd.distinct, fun hboth => absurd hboth.2 (by decide)⟩
    · rw [happrovals]
      exact List.mem_append_right _ (List.mem_singleton_self second)
    · rw [hsecond, hchanged.approvalId]
    · rw [hsecond, hchanged.revisionId]
      exact hgranted.revisionId
    · rw [hsecond, hkey, hsame]
    · rw [hsecond, hchanged.revisionNumber]
      exact hgranted.revisionNumber
    · intro e he
      rw [hchanged.previousActivationId, Option.map_some, Option.mem_some_iff] at he
      rw [← he, loadActivationRow_eq_ok hload]
      exact Option.some_ne_none _
    · rw [if_neg (by omega), hsame, hhead, hchanged.previousActivationId, hlater]
      exact ⟨_, rfl, congrArg Nat.succ hone, rfl, Option.some_ne_none _⟩
  have hbundledNow := hd.bundled (by rw [hserved] : (run sampleFloats lengthTexts bytes granted).proposals = _)
  have hadvanced : advanced (headOf last.activation) a = headOf a := by
    obtain ⟨htenantSame, hrepositorySame, hmemorySame⟩ : a.tenantId = last.activation.tenantId ∧
        a.repositoryId = last.activation.repositoryId ∧ a.memoryId = last.activation.memoryId := by
      rw [hchanged.tenantId, hchanged.repositoryId, hchanged.memoryId, hfirst.tenantId, hfirst.repositoryId, hfirst.memoryId,
        happroved.tenantId, happroved.repositoryId, htenant, hrepository]
      exact ⟨rfl, rfl, rfl⟩
    simp only [advanced, headOf, htenantSame, hrepositorySame, hmemorySame]
  have hactivation := @appendActivation_total sampleFloats lengthTexts bytes (run sampleFloats lengthTexts bytes granted)
    ⟨policySubmission (policyRevision bytes tenant memory 2 (some id) later)
      (some (policyRevision bytes tenant memory 1 none id)), approval, g, g', activationAt w, sampleVerifier⟩ a texts texts'
    _ (some last.activation) (headOf last.activation) rfl hverifier hbundledNow sampleVerifier.verifierId hverifier
    happroved.writable
    (by
      rw [PublicationDb.approval?, happrovals, ← hsecond]
      refine (@keyed_snoc _ (fun row : ApprovalRow => row.approval.approvalId) [row] second ?_ approval.approvalId).trans ?_
      · rw [hsecond, Migration.keyed_eq_none, List.map_singleton, List.mem_singleton]
        exact hdistinct.symm
      · rw [hsecond]
        exact if_pos rfl)
    (predecessor_next
      (by
        rw [PublicationDb.activationOf?, Migration.keyed_eq_none, hactivations, List.map_singleton, List.mem_singleton,
          hfirst.revisionId]
        exact hd.distinct.symm)
      (by rw [hkey]; exact hhead) hload (by rw [hone]; decide) (by rw [hone]; rfl)
      (congrArg some hfirst.revisionId.symm))
    hactivated.activated hactivated.writable hactivated.fits
    (by
      rw [PublicationDb.activation?, Migration.keyed_eq_none, hactivations, List.map_singleton, List.mem_singleton]
      exact hfresh.symm)
    hinsertable (by rw [hsame]; exact hhead) (by rw [hlater]; exact congrArg Nat.succ hone)
    hchanged.previousActivationId.symm hadvanced
  have hfinal := @run_snoc lengthTexts bytes sampleFloats granted (.appendActivation
    ⟨policySubmission (policyRevision bytes tenant memory 2 (some id) later)
      (some (policyRevision bytes tenant memory 1 none id)), approval, g, g', activationAt w, sampleVerifier⟩) _
    (map_eq_ok.mpr ⟨_, hactivation, rfl⟩)
  obtain ⟨done, hdone⟩ : ∃ done, done = granted ++ [.appendActivation
    ⟨policySubmission (policyRevision bytes tenant memory 2 (some id) later)
      (some (policyRevision bytes tenant memory 1 none id)), approval, g, g', activationAt w, sampleVerifier⟩] := ⟨_, rfl⟩
  rw [← hdone] at hfinal
  refine ⟨done, ⟨a, texts'.policy, texts'.request, texts'.decision, sampleVerifier.verifierId⟩, ?_,
    hactivated.activatedAt, hsame⟩
  rw [hfinal, hactivations]
  rfl

end Seconds

end Publication

end TraceBackedMemory
