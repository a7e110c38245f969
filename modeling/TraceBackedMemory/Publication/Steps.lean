import TraceBackedMemory.Publication.Store

namespace TraceBackedMemory

open Text Raising OrderBy Json Replay

namespace Publication

open EventContract (TextHash)

open Migration (AuthorizationScope keyed keyed_eq_some)

open Authorization (mapError_eq_ok)

section Contracts

variable {hash : TextHash} {bytes : ContentHash} {codec : FloatCodec} {s : Submission} {g : Grant}

structure Approved (hash : TextHash) (bytes : ContentHash) (codec : FloatCodec) (s : Submission) (g : Grant)
    (event : ApprovalEvent) (a : MemoryRevisionApproval) : Prop where
  lineage : lineage s.revision s.previousRevision = .ok ()
  content : verifyArtifactContent bytes s.revision.contentArtifact s.content = true
  evidence : verifyMemoryRevisionEvidenceBundle s.revision s.fixes s.regressions = .ok ()
  proposer : event.approvedBy ≠ s.revision.proposedBy
  independent : requireIndependentEvidenceActor s.revision s.fixes s.regressions event.approvedBy "approver" = .ok ()
  target : scopeTarget s.revision.scope = .ok (a.tenantId, a.repositoryId)
  revisionId : a.revisionId = s.revision.revisionId
  memoryId : a.memoryId = s.revision.memoryId
  revisionNumber : a.revisionNumber = s.revision.revisionNumber
  previousRevisionId : a.previousRevisionId = s.revision.previousRevisionId
  artifact : a.artifactContentSha256 = s.revision.contentArtifact.contentSha256
  approvedBy : a.approvedBy = event.approvedBy
  approvedVia : a.approvedViaClientId = event.approvedViaClientId
  approvedAt : publicationTime event.approvedAt (lit "approved_at") = .ok a.approvedAt
  attestation : a.approvalAttestationSha256 = event.attestationSha256
  checked : a.check hash codec = .ok ()

theorem approve_eq_ok {event : ApprovalEvent} {a : MemoryRevisionApproval}
    (h : approveMemoryRevision hash bytes codec s g event = .ok a) : Approved hash bytes codec s g event a := by
  simp only [approveMemoryRevision, bind_eq_ok, exists_unit, raiseIf_eq_ok, mapError_eq_ok, pure_eq_ok,
    Bool.not_eq_false] at h
  obtain ⟨hlineage, hcontent, hevidence, -, -, hproposer, hindependent, _, htime, -, target, htarget, -, _, -, -, _, -,
    hcheck, rfl⟩ := h
  exact ⟨hlineage, hcontent, hevidence, hproposer, hindependent, htarget, rfl, rfl, rfl, rfl, rfl, rfl, rfl, htime, rfl,
    hcheck⟩

structure Activated (hash : TextHash) (bytes : ContentHash) (codec : FloatCodec) (s : Submission)
    (approval : MemoryRevisionApproval) (approvalGrant : Grant) (previous : Option MemoryRevisionActivation)
    (event : ActivationEvent) (a : MemoryRevisionActivation) : Prop where
  approved : Approved hash bytes codec s approvalGrant
    ⟨approval.approvedBy, approval.approvedViaClientId, approval.approvedAt.text, approval.approvalAttestationSha256⟩
    approval
  lineage : activationLineage s.revision previous = .ok ()
  actors : event.activatedBy ∉ [s.revision.proposedBy, approval.approvedBy]
  independent : requireIndependentEvidenceActor s.revision s.fixes s.regressions event.activatedBy "activator" = .ok ()
  revisionId : a.revisionId = s.revision.revisionId
  approvalId : a.approvalId = approval.approvalId
  memoryId : a.memoryId = s.revision.memoryId
  revisionNumber : a.revisionNumber = s.revision.revisionNumber
  previousActivationId : a.previousActivationId = previous.map MemoryRevisionActivation.activationId
  tenantId : a.tenantId = approval.tenantId
  repositoryId : a.repositoryId = approval.repositoryId
  activatedBy : a.activatedBy = event.activatedBy
  checked : a.check hash codec = .ok ()
  previousRevisionId : a.previousRevisionId = s.revision.previousRevisionId
  activatedVia : a.activatedViaClientId = event.activatedViaClientId
  activatedAt : publicationTime event.activatedAt (lit "activated_at") = .ok a.activatedAt

theorem activate_eq_ok {approval : MemoryRevisionApproval} {approvalGrant : Grant}
    {previous : Option MemoryRevisionActivation} {event : ActivationEvent} {a : MemoryRevisionActivation}
    (h : activateMemoryRevision hash bytes codec s approval approvalGrant previous g event = .ok a) :
    Activated hash bytes codec s approval approvalGrant previous event a := by
  simp only [activateMemoryRevision, verifyMemoryRevisionApproval, bind_eq_ok, exists_unit, raiseIf_eq_ok, pure_eq_ok,
    not_or, not_not] at h
  obtain ⟨⟨expected, hexpected, rfl⟩, target, htarget, hmatches, hlineage, -, -, hactors, hindependent, _, htime, -, -, -, _,
    -, hcheck, rfl⟩ := h
  obtain ⟨-, -, -, -, htenant, hrepository, -⟩ := hmatches
  exact ⟨approve_eq_ok hexpected, hlineage, hactors, hindependent, rfl, rfl, rfl, rfl, rfl, htenant.symm,
    hrepository.symm, rfl, hcheck, rfl, rfl, htime⟩

end Contracts

section Lineages

-- a first revision follows nothing; a later one the revision it names, in the same scope and kind
structure Succeeds (r p : MemoryRevision) : Prop where
  previousRevisionId : r.previousRevisionId = some p.revisionId
  memoryId : r.memoryId = p.memoryId
  memoryKind : r.memoryKind = p.memoryKind
  revisionNumber : r.revisionNumber = p.revisionNumber + 1
  scope : r.scope = p.scope
  proposedAt : p.proposedAt.instant ≤ r.proposedAt.instant

theorem lineage_eq_ok {r : MemoryRevision} {previous : Option MemoryRevision} : lineage r previous = .ok () ↔
    r.revisionNumber = 1 ∧ previous = none ∨ r.revisionNumber ≠ 1 ∧ ∃ p, previous = some p ∧ Succeeds r p := by
  unfold lineage
  split
  · rename_i hone
    simp only [raiseIf_eq_ok, not_not, hone, true_and, ne_eq, not_true_eq_false, false_and, or_false]
  · rename_i hone
    simp only [bind_eq_ok, exists_unit, demand_eq_ok, raiseIf_eq_ok, not_or, not_not, not_lt, hone, false_and, ne_eq,
      not_false_eq_true, true_and, false_or]
    constructor
    · rintro ⟨p, hp, ⟨hid, hmemory, hkind, hnumber, hscope⟩, htime⟩
      exact ⟨p, hp, hid, hmemory, hkind, hnumber, hscope, htime⟩
    · rintro ⟨p, hp, hid, hmemory, hkind, hnumber, hscope, htime⟩
      exact ⟨p, hp, ⟨hid, hmemory, hkind, hnumber, hscope⟩, htime⟩

theorem activationLineage_eq_ok {r : MemoryRevision} {previous : Option MemoryRevisionActivation} :
    activationLineage r previous = .ok () ↔ r.revisionNumber = 1 ∧ previous = none ∨ r.revisionNumber ≠ 1 ∧
      ∃ p, previous = some p ∧ some p.revisionId = r.previousRevisionId ∧ p.memoryId = r.memoryId ∧
        p.revisionNumber + 1 = r.revisionNumber ∧ p.activationSequence + 1 = r.revisionNumber ∧
          some p.tenantId = r.scope.tenantId ∧ p.repositoryId = r.scope.repositoryId := by
  unfold activationLineage
  split
  · rename_i hone
    simp only [raiseIf_eq_ok, not_not, hone, true_and, ne_eq, not_true_eq_false, false_and, or_false]
  · rename_i hone
    simp only [bind_eq_ok, exists_unit, demand_eq_ok, raiseIf_eq_ok, not_or, not_not, hone, false_and, ne_eq,
      not_false_eq_true, true_and, false_or]

end Lineages

section EvidenceRows

variable {codec : FloatCodec} {db : PublicationDb}

-- a row may be put: it is there already, or its identity is free and its text fits
def Puttable {α : Type} (stored : Option α) (a : α) (text : Str) : Prop :=
  stored = some a ∨ stored = none ∧ fits text = true

theorem keyed_snoc {α : Type} {key : α → Str} {l : List α} {a : α} (h : keyed key l (key a) = none) (i : Str) :
    keyed key (l ++ [a]) i = if key a = i then some a else keyed key l i := by
  rw [keyed, List.find?_append]
  by_cases hi : key a = i
  · subst hi
    rw [keyed] at h
    rw [h, if_pos rfl]
    simp
  · rw [if_neg hi]
    simp [keyed, hi]

theorem keyed_snoc_self {α : Type} {key : α → Str} {l : List α} {a : α} (h : keyed key l (key a) = none) :
    keyed key (l ++ [a]) (key a) = some a := by
  rw [keyed_snoc h, if_pos rfl]

def regressionText (codec : FloatCodec) (e : StructuredRegressionEvidence) : Str := canonicalText codec.repr e.toDict

def fixText (codec : FloatCodec) (e : FixEvidence) : Str := canonicalText codec.repr e.toDict

theorem putFix_eq_ok {e : FixEvidence} {out : PublicationDb × Bool} (h : putFix codec db e = .ok out) :
    Puttable (db.fix? e.evidenceId) e (fixText codec e) ∧ out.1 = { db with fixes := out.1.fixes } ∧
      ∀ id, out.1.fix? id = if e.evidenceId = id then some e else db.fix? id := by
  unfold putFix at h
  split at h
  · rename_i stored hstored
    simp only [bind_eq_ok, exists_unit, raiseIf_eq_ok, not_not, pure_eq_ok] at h
    obtain ⟨rfl, rfl⟩ := h
    refine ⟨.inl hstored, rfl, fun id => ?_⟩
    split
    · rename_i hid
      rw [← hid, hstored]
    · rfl
  · rename_i hnone
    simp only [bind_eq_ok, exists_unit, raiseIf_eq_ok, Bool.not_eq_false, pure_eq_ok] at h
    obtain ⟨hfits, rfl⟩ := h
    exact ⟨.inr ⟨hnone, hfits⟩, rfl, keyed_snoc hnone⟩

theorem putFix_total {e : FixEvidence} (h : Puttable (db.fix? e.evidenceId) e (fixText codec e)) :
    ∃ out, putFix codec db e = .ok out := by
  unfold putFix
  rcases h with hstored | ⟨hnone, hfits⟩
  · rw [hstored]
    exact ⟨_, by simp only [raiseIf_of_not (not_not.mpr rfl)]; rfl⟩
  · rw [hnone]
    have hfree : ¬fits (canonicalText codec.repr e.toDict) = false := by
      rw [Bool.not_eq_false]
      exact hfits
    exact ⟨_, by simp only [raiseIf_of_not hfree]; rfl⟩

theorem putRegression_eq_ok {s out : PublicationDb × Nat} {e : StructuredRegressionEvidence}
    (h : putRegression codec s e = .ok out) :
    Puttable (s.1.regression? e.evidenceId) e (regressionText codec e) ∧
      out.1 = { s.1 with regressions := out.1.regressions } ∧
        ∀ id, out.1.regression? id = if e.evidenceId = id then some e else s.1.regression? id := by
  unfold putRegression at h
  split at h
  · rename_i stored hstored
    simp only [bind_eq_ok, exists_unit, raiseIf_eq_ok, not_not, pure_eq_ok] at h
    obtain ⟨rfl, rfl⟩ := h
    refine ⟨.inl hstored, rfl, fun id => ?_⟩
    split
    · rename_i hid
      rw [← hid, hstored]
    · rfl
  · rename_i hnone
    simp only [bind_eq_ok, exists_unit, raiseIf_eq_ok, Bool.not_eq_false, pure_eq_ok] at h
    obtain ⟨hfits, rfl⟩ := h
    exact ⟨.inr ⟨hnone, hfits⟩, rfl, keyed_snoc hnone⟩

theorem putRegression_total {s : PublicationDb × Nat} {e : StructuredRegressionEvidence}
    (h : Puttable (s.1.regression? e.evidenceId) e (regressionText codec e)) :
    ∃ out, putRegression codec s e = .ok out := by
  unfold putRegression
  rcases h with hstored | ⟨hnone, hfits⟩
  · rw [hstored]
    exact ⟨_, by simp only [raiseIf_of_not (not_not.mpr rfl)]; rfl⟩
  · rw [hnone]
    have hfree : ¬fits (canonicalText codec.repr e.toDict) = false := by
      rw [Bool.not_eq_false]
      exact hfits
    exact ⟨_, by simp only [raiseIf_of_not hfree]; rfl⟩

theorem putRegressions_eq_ok {l : List StructuredRegressionEvidence}
    (hn : (l.map StructuredRegressionEvidence.evidenceId).Nodup) {s out : PublicationDb × Nat}
    (h : accumulate (putRegression codec) s l = .ok out) :
    (∀ e ∈ l, Puttable (s.1.regression? e.evidenceId) e (regressionText codec e)) ∧
      out.1 = { s.1 with regressions := out.1.regressions } ∧
        (∀ e ∈ l, out.1.regression? e.evidenceId = some e) ∧
          ∀ id, (∀ e ∈ l, e.evidenceId ≠ id) → out.1.regression? id = s.1.regression? id := by
  induction l generalizing s with
  | nil =>
    cases h
    exact ⟨List.forall_mem_nil _, rfl, List.forall_mem_nil _, fun _ _ => rfl⟩
  | cons e l ih =>
    rw [List.map_cons, List.nodup_cons] at hn
    simp only [accumulate, bind_eq_ok] at h
    obtain ⟨t, ht, hrest⟩ := h
    obtain ⟨hput, hframe, hlookup⟩ := putRegression_eq_ok ht
    obtain ⟨hputs, hframes, hfound, hother⟩ := ih hn.2 hrest
    have hfresh : ∀ f ∈ l, e.evidenceId ≠ f.evidenceId := by
      intro f hf hsame
      exact hn.1 (hsame ▸ List.mem_map_of_mem hf)
    refine ⟨?_, ?_, ?_, ?_⟩
    · rw [List.forall_mem_cons]
      refine ⟨hput, fun f hf => ?_⟩
      have hsame := hputs f hf
      rwa [hlookup, if_neg (hfresh f hf)] at hsame
    · rw [hframe] at hframes
      exact hframes
    · rw [List.forall_mem_cons]
      refine ⟨?_, hfound⟩
      rw [hother e.evidenceId (fun f hf hsame => hfresh f hf hsame.symm), hlookup, if_pos rfl]
    · intro id hid
      rw [List.forall_mem_cons] at hid
      rw [hother id hid.2, hlookup, if_neg hid.1]

theorem putRegressions_total {l : List StructuredRegressionEvidence}
    (hn : (l.map StructuredRegressionEvidence.evidenceId).Nodup) {s : PublicationDb × Nat}
    (h : ∀ e ∈ l, Puttable (s.1.regression? e.evidenceId) e (regressionText codec e)) :
    ∃ out, accumulate (putRegression codec) s l = .ok out := by
  induction l generalizing s with
  | nil => exact ⟨s, rfl⟩
  | cons e l ih =>
    rw [List.map_cons, List.nodup_cons] at hn
    rw [List.forall_mem_cons] at h
    obtain ⟨t, ht⟩ := putRegression_total h.1
    obtain ⟨-, -, hlookup⟩ := putRegression_eq_ok ht
    have hrest : ∀ f ∈ l, Puttable (t.1.regression? f.evidenceId) f (regressionText codec f) := by
      intro f hf
      have hfresh : e.evidenceId ≠ f.evidenceId := fun hsame => hn.1 (hsame ▸ List.mem_map_of_mem hf)
      rw [hlookup, if_neg hfresh]
      exact h.2 f hf
    obtain ⟨out, hout⟩ := ih hn.2 hrest
    exact ⟨out, by simp only [accumulate, ht]; exact hout⟩

end EvidenceRows

end Publication

end TraceBackedMemory
