import TraceBackedMemory.Publication.Tenants

namespace TraceBackedMemory

open Text Raising OrderBy Json Replay

namespace Publication

open EventContract (TextHash sampleFloats sampleTexts)

open Migration (CommitRelationEvidence keyed keyed_eq_some sound sound_lit names_of_good jsonStrings)

open SemanticGate (taggedHex isRevisionId)

section Actors

variable {hash : TextHash} {bytes : ContentHash} {codec : FloatCodec} {db : PublicationDb} {c : Proposal} {s : Submission}

def StructuredRegressionEvidence.relationVerifiers (e : StructuredRegressionEvidence) : List Str :=
  [e.sourceToFix.relation.verifiedBy, e.fixToVerification.relation.verifiedBy]

-- everyone the evidence of a proposal names
def evidenceActors (c : Proposal) : List Str :=
  c.fixEvidence.toList.flatMap FixEvidence.actors ++
    c.regressionEvidence.flatMap (fun e => e.actors ++ e.relationVerifiers)

-- the evidence at hand is the proposal's own
structure Presents (s : Submission) (c : Proposal) : Prop where
  revision : s.revision = c.revision
  fix : ∀ id ∈ c.revision.fixEvidenceId, s.fixes id = suppliedFix c id
  regressions : ∀ id ∈ c.revision.regressionEvidenceIds, s.regressions id = suppliedRegression c id

theorem mem_evidenceActors {actor : Str} : actor ∈ evidenceActors c ↔
    (∃ fix ∈ c.fixEvidence, actor ∈ fix.actors) ∨
      ∃ e ∈ c.regressionEvidence, actor ∈ e.actors ∨ actor ∈ e.relationVerifiers := by
  simp only [evidenceActors, List.mem_append, List.mem_flatMap, Option.mem_toList, Option.mem_def]

theorem Sound.supplied (h : Sound c) {e : StructuredRegressionEvidence} (he : e ∈ c.regressionEvidence) :
    e.evidenceId ∈ c.revision.regressionEvidenceIds ∧ suppliedRegression c e.evidenceId = some e := by
  constructor
  · rw [← h.ordered_ids]
    exact List.mem_map_of_mem (mem_orderBy.mpr he)
  · exact (keyed_eq_some h.distinct).mpr ⟨he, rfl⟩

theorem storeProposal_named {out : PublicationDb × StoreResult} (h : storeProposal codec db c = .ok out) : FixNamed c := by
  obtain ⟨-, ⟨⟨row, -, hbundle⟩, -⟩ | ⟨-, hadmissible, -⟩⟩ := storeProposal_eq_ok h
  · exact (loadBundle_eq_ok hbundle).2
  · exact hadmissible.named

theorem proposer_separate (hsound : Sound c) (hnamed : FixNamed c) (hlesson : c.revision.memoryKind = .lesson) :
    (∀ fix ∈ c.fixEvidence, c.revision.proposedBy ∉ fix.actors) ∧
      ∀ e ∈ c.regressionEvidence, c.revision.proposedBy ∉ e.actors := by
  have hverified := hsound.verified
  simp only [verifyMemoryRevisionEvidenceBundle, verifyMemoryRevisionEvidence, hlesson, bind_eq_ok, exists_unit,
    checkEach_eq_ok, demand_eq_ok, raiseIf_eq_ok] at hverified
  obtain ⟨hregressions, fix, hfix, -, -, hproposer, -⟩ := hverified
  constructor
  · intro given hgiven
    have hid : c.revision.fixEvidenceId = some given.evidenceId := by
      rw [← hnamed, Option.mem_def.mp hgiven]
      rfl
    rw [hid, Option.bind_some, suppliedFix_of_named hnamed hid, Option.mem_def.mp hgiven] at hfix
    exact Option.some.inj hfix ▸ hproposer
  · intro e he
    obtain ⟨hid, hsupplied⟩ := hsound.supplied he
    have hchecked := hregressions e.evidenceId hid
    simp only [verifyRegression, bind_eq_ok, exists_unit, demand_eq_ok, raiseIf_eq_ok] at hchecked
    obtain ⟨found, hfound, -, -, -, hseparate⟩ := hchecked
    obtain rfl := Option.some.inj (hsupplied.symm.trans hfound)
    exact hseparate

theorem independent_separate (hsound : Sound c) (hnamed : FixNamed c) (hlesson : c.revision.memoryKind = .lesson)
    (hp : Presents s c) {actor : Str} {role : String}
    (h : requireIndependentEvidenceActor s.revision s.fixes s.regressions actor role = .ok ()) :
    (∀ fix ∈ c.fixEvidence, actor ∉ fix.actors) ∧ ∀ e ∈ c.regressionEvidence, actor ∉ e.actors := by
  rw [hp.revision] at h
  simp only [requireIndependentEvidenceActor, hlesson, bind_eq_ok, demand_eq_ok, raiseIf_eq_ok, List.mem_append, not_or]
    at h
  obtain ⟨fix, hfix, items, hitems, hactor, hflat⟩ := h
  constructor
  · intro given hgiven
    have hid : c.revision.fixEvidenceId = some given.evidenceId := by
      rw [← hnamed, Option.mem_def.mp hgiven]
      rfl
    rw [hid, Option.bind_some, hp.fix _ hid, suppliedFix_of_named hnamed hid, Option.mem_def.mp hgiven] at hfix
    exact Option.some.inj hfix ▸ hactor
  · intro e he hmem
    obtain ⟨hid, hsupplied⟩ := hsound.supplied he
    obtain ⟨found, hfound, hdemand⟩ := exists_of_forall₂ (collect_eq_ok.mp hitems).flip hid
    rw [demand_eq_ok, hp.regressions _ hid, hsupplied] at hdemand
    exact hflat (List.mem_flatMap.mpr ⟨found, hfound, Option.some.inj hdemand ▸ hmem⟩)

end Actors

section Sample

variable {hash : TextHash} {bytes : ContentHash} {codec : FloatCodec}

def relationBy (source target verifier : Str) : CommitRelationEvidence :=
  ⟨source, target, .ancestor, verifier, sampleTime.text⟩

theorem relationBy_check {source target verifier : Str} (hsource : sound metadataValueMaxChars source = true)
    (htarget : sound metadataValueMaxChars target = true) (hverifier : sound memoryIdMaxChars verifier = true) :
    (relationBy source target verifier).check = .ok () := by
  simp only [CommitRelationEvidence.check, bind_eq_ok, exists_unit]
  refine ⟨Migration.required_eq_ok.mpr hsource, Migration.required_eq_ok.mpr htarget,
    Migration.required_eq_ok.mpr hverifier, raiseIf_of_not ?_⟩
  rw [relationBy, instant_time]
  exact Option.some_ne_none _

def sourceRelation : VerifiedRelation :=
  ⟨relationBy (lit "c1") (lit "c2") (lit "git"), relationBy_check (sound_lit rfl) (sound_lit rfl) (sound_lit rfl),
    sampleTime.canonical⟩

def runnerRelation : VerifiedRelation :=
  ⟨relationBy (lit "c2") (lit "c3") (lit "runner"), relationBy_check (sound_lit rfl) (sound_lit rfl) (sound_lit rfl),
    sampleTime.canonical⟩

theorem sourceRelation_instant : sourceRelation.instant = sampleTime.instant := rfl

theorem runnerRelation_instant : runnerRelation.instant = sampleTime.instant := rfl

def sampleFix (id : Str) : FixEvidence where
  evidenceId := id
  caseId := lit "case"
  sourceTraceId := lit "trace"
  sourceCommitSha := lit "c1"
  fixCommitSha := lit "c2"
  sourceToFix := sourceRelation
  artifactHashes := []
  submitterId := lit "submitter"
  submittedAt := sampleTime
  reviewerId := lit "reviewer"
  reviewedAt := sampleTime
  attestationSha256 := sampleDigest 'a'

def sampleRegression (id : Str) : StructuredRegressionEvidence where
  evidenceId := id
  caseId := lit "case"
  sourceTraceId := lit "trace"
  verificationTraceId := lit "rerun"
  verificationRunId := lit "run"
  evaluatorId := lit "evaluator"
  evaluatorVersion := lit "1"
  evaluationSuite := lit "suite"
  evaluationCaseId := lit "eval"
  expectedOutcome := lit "ok"
  observedOutcome := lit "ok"
  result := .pass
  environment := []
  sourceCommitSha := lit "c1"
  fixCommitSha := lit "c2"
  verificationCommitSha := lit "c3"
  sourceToFix := sourceRelation
  fixToVerification := runnerRelation
  artifactHashes := []
  submitterId := lit "submitter"
  submittedAt := sampleTime
  verifierId := lit "verifier"
  verifiedAt := sampleTime
  attestationSha256 := sampleDigest 'a'

def fixNames : List Str :=
  [lit "contract_version", lit "case_id", lit "source_trace_id", lit "source_commit_sha", lit "fix_commit_sha",
    lit "source_to_fix", lit "artifact_hashes", lit "submitter_id", lit "submitted_at", lit "reviewer_id",
    lit "reviewed_at", lit "attestation_sha256"]

def regressionNames : List Str :=
  [lit "contract_version", lit "case_id", lit "source_trace_id", lit "verification_trace_id", lit "verification_run_id",
    lit "evaluator_id", lit "evaluator_version", lit "evaluation_suite", lit "evaluation_case_id",
    lit "expected_outcome", lit "observed_outcome", lit "result", lit "environment", lit "source_commit_sha",
    lit "fix_commit_sha", lit "verification_commit_sha", lit "source_to_fix", lit "fix_to_verification",
    lit "artifact_hashes", lit "submitter_id", lit "submitted_at", lit "verifier_id", lit "verified_at",
    lit "attestation_sha256"]

theorem encodes_relation (r : VerifiedRelation) : Migration.Encodes (.obj r.relation.entries) :=
  CommitRelationEvidence.encodes r.checked

theorem encodes_sampleFix (id : Str) : Migration.Encodes (.obj (sampleFix id).unsigned) := by
  refine Migration.encodes_entries (@names_of_good _ fixNames (by decide) rfl) rfl ?_
  simp only [FixEvidence.unsigned, sampleFix, List.map_cons, List.map_nil, List.forall_mem_cons, List.not_mem_nil,
    false_implies, implies_true, and_true]
  exact ⟨Migration.encodes_str (by rfl), Migration.encodes_str (by rfl), Migration.encodes_str (by rfl),
    Migration.encodes_str (by rfl), Migration.encodes_str (by rfl), encodes_relation _,
    Migration.encodes_strings (List.forall_mem_nil _), Migration.encodes_str (by rfl),
    Migration.encodes_str (utf8_of_time _), Migration.encodes_str (by rfl), Migration.encodes_str (utf8_of_time _),
    Migration.encodes_str (utf8_of_validDigest validDigest_sample)⟩

theorem encodes_sampleRegression (id : Str) : Migration.Encodes (.obj (sampleRegression id).unsigned) := by
  refine Migration.encodes_entries (@names_of_good _ regressionNames (by decide) rfl) rfl ?_
  simp only [StructuredRegressionEvidence.unsigned, sampleRegression, List.map_cons, List.map_nil, List.forall_mem_cons,
    List.not_mem_nil, false_implies, implies_true, and_true]
  exact ⟨Migration.encodes_str (by rfl), Migration.encodes_str (by rfl), Migration.encodes_str (by rfl),
    Migration.encodes_str (by rfl), Migration.encodes_str (by rfl), Migration.encodes_str (by rfl),
    Migration.encodes_str (by rfl), Migration.encodes_str (by rfl), Migration.encodes_str (by rfl),
    Migration.encodes_str (by rfl), Migration.encodes_str (by rfl), Migration.encodes_str (by rfl), ⟨rfl, rfl⟩,
    Migration.encodes_str (by rfl), Migration.encodes_str (by rfl), Migration.encodes_str (by rfl), encodes_relation _,
    encodes_relation _, Migration.encodes_strings (List.forall_mem_nil _), Migration.encodes_str (by rfl),
    Migration.encodes_str (utf8_of_time _), Migration.encodes_str (by rfl), Migration.encodes_str (utf8_of_time _),
    Migration.encodes_str (utf8_of_validDigest validDigest_sample)⟩

theorem boundedText_eq_ok {fault : Str → GateError} {limit : Nat} {kind : String} {value name : Str}
    (h : sound limit value = true) : boundedText fault limit kind value name = .ok () := by
  simp only [sound, Bool.and_eq_true, Bool.not_eq_true', decide_eq_true_eq] at h
  refine raiseIf_of_not ?_
  rw [not_or, not_lt, h.1.1]
  exact ⟨Bool.false_ne_true, h.1.2⟩

theorem sampleFix_check {id : Str} (hid : (sampleFix id).fixEvidenceId hash codec = .ok id) :
    (sampleFix id).check hash codec = .ok () := by
  have htagged : taggedHex "fix_evidence_sha256_" id = true := by
    obtain ⟨found, hfound, htagged⟩ := @derivedId_total hash codec _ (encodes_sampleFix id) "fix_evidence_sha256_"
    exact Except.ok.inj (hfound.symm.trans hid) ▸ htagged
  have hidentifier {value name : Str} (h : sound memoryIdMaxChars value = true) : fixIdentifier value name = .ok () :=
    boundedText_eq_ok h
  have hmetadata {value name : Str} (h : sound evidenceMetadataMaxChars value = true) : fixMetadata value name = .ok () :=
    boundedText_eq_ok h
  have hbinds : sourceRelation.binds (lit "c1") (lit "c2") := ⟨rfl, rfl⟩
  have hactors : lit "submitter" ≠ lit "reviewer" := by decide
  have hcommits : lit "c1" ≠ lit "c2" := by decide
  have hverified : ¬sampleTime.instant < sourceRelation.instant := by
    rw [sourceRelation_instant]
    exact lt_irrefl _
  have hattestation : taggedDigest fixInvalid (sampleDigest 'a') (lit "attestation_sha256") = .ok () :=
    raiseIf_of_not (by rw [validDigest_sample]; decide)
  simp only [FixEvidence.check, bind_eq_ok, exists_unit, raiseIf_eq_ok, Bool.not_eq_false, not_not]
  exact ⟨htagged, hidentifier (sound_lit rfl), hidentifier (sound_lit rfl), hidentifier (sound_lit rfl),
    hidentifier (sound_lit rfl), hactors, hmetadata (sound_lit rfl), hmetadata (sound_lit rfl), hcommits, hbinds, rfl,
    hverified, lt_irrefl sampleTime.instant, hattestation, id, hid, rfl⟩

theorem sampleRegression_check {id : Str} (hid : (sampleRegression id).regressionEvidenceId hash codec = .ok id) :
    (sampleRegression id).check hash codec = .ok () := by
  have htagged : taggedHex "regression_sha256_" id = true := by
    obtain ⟨found, hfound, htagged⟩ := @derivedId_total hash codec _ (encodes_sampleRegression id) "regression_sha256_"
    exact Except.ok.inj (hfound.symm.trans hid) ▸ htagged
  have hidentifiers : checkEach (fun f => evidenceIdentifier f.1 f.2) (sampleRegression id).identifiers = .ok () := by
    simp only [checkEach_eq_ok, StructuredRegressionEvidence.identifiers, List.forall_mem_cons, List.not_mem_nil,
      false_implies, implies_true, and_true]
    exact ⟨boundedText_eq_ok (sound_lit rfl), boundedText_eq_ok (sound_lit rfl), boundedText_eq_ok (sound_lit rfl),
      boundedText_eq_ok (sound_lit rfl), boundedText_eq_ok (sound_lit rfl), boundedText_eq_ok (sound_lit rfl),
      boundedText_eq_ok (sound_lit rfl)⟩
  have hmetadata : checkEach (fun f => evidenceMetadata f.1 f.2) (sampleRegression id).metadata = .ok () := by
    simp only [checkEach_eq_ok, StructuredRegressionEvidence.metadata, List.forall_mem_cons, List.not_mem_nil,
      false_implies, implies_true, and_true]
    exact ⟨boundedText_eq_ok (sound_lit rfl), boundedText_eq_ok (sound_lit rfl), boundedText_eq_ok (sound_lit rfl),
      boundedText_eq_ok (sound_lit rfl), boundedText_eq_ok (sound_lit rfl), boundedText_eq_ok (sound_lit rfl),
      boundedText_eq_ok (sound_lit rfl), boundedText_eq_ok (sound_lit rfl)⟩
  have hsource : sourceRelation.binds (lit "c1") (lit "c2") := ⟨rfl, rfl⟩
  have hrunner : runnerRelation.binds (lit "c2") (lit "c3") := ⟨rfl, rfl⟩
  have htraces : lit "trace" ≠ lit "rerun" := by decide
  have hactors : lit "submitter" ≠ lit "verifier" := by decide
  have horder : ¬runnerRelation.instant < sourceRelation.instant := by
    rw [runnerRelation_instant, sourceRelation_instant]
    exact lt_irrefl _
  have hverified : ¬sampleTime.instant < runnerRelation.instant := by
    rw [runnerRelation_instant]
    exact lt_irrefl _
  have hattestation : taggedDigest evidenceInvalid (sampleDigest 'a') (lit "attestation_sha256") = .ok () :=
    raiseIf_of_not (by rw [validDigest_sample]; decide)
  simp only [StructuredRegressionEvidence.check, hidentifiers, hmetadata, bind_eq_ok, exists_unit, raiseIf_eq_ok,
    Bool.not_eq_false, not_not]
  exact ⟨htagged, trivial, htraces, hactors, trivial, rfl, hsource, hrunner, rfl, lt_irrefl sampleTime.instant, horder,
    hverified, hattestation, id, hid, rfl⟩

theorem commitRelationNames_short : ∀ k ∈ Migration.commitRelationNames, k.length ≤ 40 := by
  simp only [Migration.commitRelationNames, List.forall_mem_cons]
  and_intros <;> first | exact short_lit (by decide) | exact List.forall_mem_nil _

theorem slim_relation {source target verifier : Str} (hsource : source.length ≤ 128) (htarget : target.length ≤ 128)
    (hverifier : verifier.length ≤ 128) : Slim codec.repr 8114 (.obj (relationBy source target verifier).entries) := by
  refine (@slim_record codec.repr _ _ _ 770 (relationBy source target verifier).names.keys commitRelationNames_short rfl
    ?_).mono (by decide)
  simp only [CommitRelationEvidence.entries, List.map_cons, List.map_nil, List.forall_mem_cons, List.not_mem_nil,
    false_implies, implies_true, and_true]
  exact ⟨slim_short hsource, slim_short htarget, slim_short (show (lit "ancestor").length ≤ 128 by decide),
    slim_short hverifier, slim_short (length_of_time sampleTime)⟩

theorem fixNames_short : ∀ k ∈ fixNames ++ [lit "evidence_id"], k.length ≤ 40 := by
  simp only [fixNames, List.cons_append, List.nil_append, List.forall_mem_cons]
  and_intros <;> first | exact short_lit (by decide) | exact List.forall_mem_nil _

theorem regressionNames_short : ∀ k ∈ regressionNames ++ [lit "evidence_id"], k.length ≤ 40 := by
  simp only [regressionNames, List.cons_append, List.nil_append, List.forall_mem_cons]
  and_intros <;> first | exact short_lit (by decide) | exact List.forall_mem_nil _

theorem fits_sampleFix {id : Str} (hid : taggedHex "fix_evidence_sha256_" id = true) :
    fits (fixText codec (sampleFix id)) = true := by
  have hencodes : Migration.Encodes (sampleFix id).toDict :=
    encodes_snoc (encodes_sampleFix id) (by rfl) (Migration.encodes_str (utf8_of_taggedHex (by rfl) hid))
  refine fits_of_slim hencodes (@slim_record codec.repr _ (fixNames ++ [lit "evidence_id"]) _ 8114 rfl fixNames_short rfl
    ?_) (by decide)
  have hshort {s : Str} (hs : s.length ≤ 128) : Slim codec.repr 8114 (.str s) := (slim_short hs).mono (by decide)
  have hempty : Slim codec.repr 8114 (jsonStrings []) :=
    (slim_arr (n := 0) (List.forall_mem_nil _)).mono (by decide)
  simp only [FixEvidence.unsigned, sampleFix, List.map_append, List.map_cons, List.map_nil, List.forall_mem_append,
    List.forall_mem_cons, List.not_mem_nil, false_implies, implies_true, and_true]
  exact ⟨⟨hshort (by decide), hshort (by decide), hshort (by decide), hshort (by decide), hshort (by decide),
    slim_relation (by decide) (by decide) (by decide), hempty, hshort (by decide), hshort (length_of_time _),
    hshort (by decide), hshort (length_of_time _), hshort (length_of_digest validDigest_sample)⟩,
    hshort (length_of_taggedHex (by decide) hid)⟩

theorem fits_sampleRegression {id : Str} (hid : taggedHex "regression_sha256_" id = true) :
    fits (regressionText codec (sampleRegression id)) = true := by
  have hencodes : Migration.Encodes (sampleRegression id).toDict :=
    encodes_snoc (encodes_sampleRegression id) (by rfl) (Migration.encodes_str (utf8_of_taggedHex (by rfl) hid))
  refine fits_of_slim hencodes (@slim_record codec.repr _ (regressionNames ++ [lit "evidence_id"]) _ 8114 rfl
    regressionNames_short rfl ?_) (by decide)
  have hshort {s : Str} (hs : s.length ≤ 128) : Slim codec.repr 8114 (.str s) := (slim_short hs).mono (by decide)
  have hempty : Slim codec.repr 8114 (jsonStrings []) :=
    (slim_arr (n := 0) (List.forall_mem_nil _)).mono (by decide)
  have henvironment : Slim codec.repr 8114 (.obj []) :=
    (slim_obj (k := 0) (n := 0) (List.forall_mem_nil _) (List.forall_mem_nil _)).mono (by decide)
  simp only [StructuredRegressionEvidence.unsigned, sampleRegression, List.map_append, List.map_cons, List.map_nil,
    List.forall_mem_append, List.forall_mem_cons, List.not_mem_nil, false_implies, implies_true, and_true]
  exact ⟨⟨hshort (by decide), hshort (by decide), hshort (by decide), hshort (by decide), hshort (by decide),
    hshort (by decide), hshort (by decide), hshort (by decide), hshort (by decide), hshort (by decide),
    hshort (by decide), hshort (by decide), henvironment, hshort (by decide), hshort (by decide), hshort (by decide),
    slim_relation (by decide) (by decide) (by decide), slim_relation (by decide) (by decide) (by decide), hempty,
    hshort (by decide), hshort (length_of_time _), hshort (by decide), hshort (length_of_time _),
    hshort (length_of_digest validDigest_sample)⟩, hshort (length_of_taggedHex (by decide) hid)⟩

variable (bytes) in
def lessonProposal (fixId regressionId id : Str) : Proposal where
  revision :=
    { policyDraft bytes (lit "tenant") (lit "memory") 1 none with
      revisionId := id
      memoryKind := .lesson
      memoryType := .procedural
      sourceCaseId := some (lit "case")
      sourceCaseRevisionId := some (lit "case_revision")
      fixEvidenceId := some fixId
      regressionEvidenceIds := [regressionId] }
  fixEvidence := some (sampleFix fixId)
  regressionEvidence := [sampleRegression regressionId]

variable {fixId regressionId : Str}

theorem sound_of_taggedHex {stem : String} {s : Str} (hstem : sound 64 (lit stem) = true) (h : taggedHex stem s = true) :
    sound memoryIdMaxChars s = true := by
  simp only [sound, Bool.and_eq_true, Bool.not_eq_true', decide_eq_true_eq] at hstem ⊢
  have hlength := length_of_taggedHex hstem.1.2 h
  refine ⟨⟨?_, hlength⟩, utf8_of_taggedHex hstem.2 h⟩
  have hvisible := hstem.1.1
  rw [Bool.eq_false_iff, ne_eq, isBlank_iff, not_forall] at hvisible ⊢
  obtain ⟨c, hc⟩ := hvisible
  rw [Classical.not_imp] at hc
  simp only [taggedHex, Bool.and_eq_true, List.isPrefixOf_iff_prefix] at h
  exact ⟨c, Classical.not_imp.mpr ⟨h.1.2.subset hc.1, hc.2⟩⟩

theorem checkEvidenceIds_singleton {id : Str} (h : isEvidenceId id = true) : checkEvidenceIds [id] = .ok () := by
  simp only [checkEvidenceIds, bind_eq_ok, exists_unit, raiseIf_eq_ok, not_exists, not_and, List.mem_singleton,
    Bool.not_eq_false, not_not]
  refine ⟨Nat.not_lt.mpr (show 1 ≤ maxEvidenceIds by decide), ?_, List.nodup_singleton _, rfl⟩
  rintro _ rfl
  exact h

theorem lessonProposal_fields (hfix : taggedHex "fix_evidence_sha256_" fixId = true)
    (hregression : taggedHex "regression_sha256_" regressionId = true) (id : Str) :
    DraftFields (lessonProposal bytes fixId regressionId id).revision := by
  have h : DraftFields (policyDraft bytes (lit "tenant") (lit "memory") 1 none) :=
    policyDraft_fields (sound_lit rfl) (sound_lit rfl) rfl (by decide)
  have hkind : (lessonProposal bytes fixId regressionId id).revision.memoryKind = .lesson := rfl
  refine { h with memoryType := ?_, evidenceIds := checkEvidenceIds_singleton hregression, references := ?_ }
  · rintro ⟨hpolicy, -⟩
    cases hpolicy
  · simp only [MemoryRevision.checkReferences, hkind, requiredReference, bind_eq_ok, exists_unit,
      revisionIdentifier_eq_ok, raiseIf_eq_ok]
    exact ⟨sound_lit rfl, sound_lit rfl, sound_of_taggedHex (sound_lit rfl) hfix, List.cons_ne_nil _ _⟩

theorem lessonProposal_supplied (id : Str) :
    suppliedFix (lessonProposal bytes fixId regressionId id) fixId = some (sampleFix fixId) ∧
      suppliedRegression (lessonProposal bytes fixId regressionId id) regressionId =
        some (sampleRegression regressionId) :=
  ⟨@keyed_snoc_self _ FixEvidence.evidenceId [] (sampleFix fixId) rfl,
    @keyed_snoc_self _ StructuredRegressionEvidence.evidenceId [] (sampleRegression regressionId) rfl⟩

theorem lessonProposal_sound (id : Str) : Sound (lessonProposal bytes fixId regressionId id) := by
  obtain ⟨hfix, hregression⟩ := @lessonProposal_supplied bytes fixId regressionId id
  have hfixActors : lit "author" ∉ [lit "submitter", lit "reviewer", lit "git"] := by decide
  have hregressionActors : lit "author" ∉ [lit "submitter", lit "verifier"] := by decide
  have hitem : verifyRegression (lessonProposal bytes fixId regressionId id).revision
      (suppliedRegression (lessonProposal bytes fixId regressionId id)) regressionId = .ok () := by
    simp only [verifyRegression, hregression, bind_eq_ok, exists_unit, demand_eq_ok, raiseIf_eq_ok, not_not]
    exact ⟨_, rfl, rfl, rfl, rfl, hregressionActors⟩
  have hagreement : verifyAgreement (suppliedRegression (lessonProposal bytes fixId regressionId id)) (sampleFix fixId)
      regressionId = .ok () := by
    simp only [verifyAgreement, hregression, bind_eq_ok, exists_unit, demand_eq_ok, raiseIf_eq_ok, not_not]
    exact ⟨_, rfl, rfl, rfl, rfl⟩
  have hkind : (lessonProposal bytes fixId regressionId id).revision.memoryKind = .lesson := rfl
  have hnamed : (lessonProposal bytes fixId regressionId id).revision.fixEvidenceId = some fixId := rfl
  refine ⟨List.nodup_singleton _, rfl, ?_⟩
  simp only [verifyMemoryRevisionEvidenceBundle, verifyMemoryRevisionEvidence, hkind, hnamed, Option.bind_some, hfix,
    bind_eq_ok, exists_unit, checkEach_eq_ok, demand_eq_ok, raiseIf_eq_ok, not_not]
  exact ⟨List.forall_mem_singleton.mpr hitem, _, rfl, rfl, rfl, hfixActors, List.forall_mem_singleton.mpr hagreement⟩

theorem lessonProposal_stored {id : Str} (hfix : taggedHex "fix_evidence_sha256_" fixId = true)
    (hregression : taggedHex "regression_sha256_" regressionId = true) (hid : isRevisionId id = true) :
    ∃ out, storeProposal sampleFloats .empty (lessonProposal bytes fixId regressionId id) = .ok out := by
  refine storeProposal_accepts.mpr ⟨lessonProposal_sound id, .inr ⟨rfl, ⟨?_, ?_, rfl, rfl, ?_⟩, ?_, rfl⟩⟩
  · rintro e he
    obtain rfl := Option.some.inj he
    exact .inr ⟨rfl, fits_sampleFix hfix⟩
  · exact List.forall_mem_singleton.mpr (.inr ⟨rfl, fits_sampleRegression hregression⟩)
  · exact (lessonProposal_fields hfix hregression id).fits hid rfl rfl (show 1 ≤ 9 by decide) length_repr_one
  · rintro ⟨p, hp, -⟩
    cases hp

theorem lessonProposal_independent {actor : Str} {role : String} (id : Str)
    (h : actor ∉ [lit "submitter", lit "reviewer", lit "git", lit "submitter", lit "verifier"]) :
    requireIndependentEvidenceActor (lessonProposal bytes fixId regressionId id).revision
      (suppliedFix (lessonProposal bytes fixId regressionId id))
      (suppliedRegression (lessonProposal bytes fixId regressionId id)) actor role = .ok () := by
  obtain ⟨hfix, hregression⟩ := @lessonProposal_supplied bytes fixId regressionId id
  have hkind : (lessonProposal bytes fixId regressionId id).revision.memoryKind = .lesson := rfl
  have hnamed : (lessonProposal bytes fixId regressionId id).revision.fixEvidenceId = some fixId := rfl
  have hids : (lessonProposal bytes fixId regressionId id).revision.regressionEvidenceIds = [regressionId] := rfl
  simp only [requireIndependentEvidenceActor, hkind, hnamed, hids, Option.bind_some, hfix, collect, hregression, bind_eq_ok,
    demand_eq_ok, raiseIf_eq_ok, pure_eq_ok]
  exact ⟨_, rfl, _, ⟨_, rfl, _, rfl, rfl⟩, h⟩

theorem lessonProposal_digest (hfix : taggedHex "fix_evidence_sha256_" fixId = true)
    (hregression : taggedHex "regression_sha256_" regressionId = true) {id : Str} (hid : isRevisionId id = true) :
    ∃ digest, evidenceBundleSha256 (lessonProposal bytes fixId regressionId id).revision
      (suppliedFix (lessonProposal bytes fixId regressionId id))
      (suppliedRegression (lessonProposal bytes fixId regressionId id)) hash codec = .ok digest ∧
        validDigest digest = true := by
  obtain ⟨hfixed, hregressed⟩ := @lessonProposal_supplied bytes fixId regressionId id
  have hkind : (lessonProposal bytes fixId regressionId id).revision.memoryKind = .lesson := rfl
  have hnamed : (lessonProposal bytes fixId regressionId id).revision.fixEvidenceId = some fixId := rfl
  have hids : (lessonProposal bytes fixId regressionId id).revision.regressionEvidenceIds = [regressionId] := rfl
  have hfixEncodes : Migration.Encodes (sampleFix fixId).toDict :=
    encodes_snoc (encodes_sampleFix fixId) (by rfl) (Migration.encodes_str (utf8_of_taggedHex (by rfl) hfix))
  have hregressionEncodes : Migration.Encodes (sampleRegression regressionId).toDict :=
    encodes_snoc (encodes_sampleRegression regressionId) (by rfl)
      (Migration.encodes_str (utf8_of_taggedHex (by rfl) hregression))
  have hencodes : Migration.Encodes (.obj [(lit "revision_id", .str id), (lit "fix_evidence", (sampleFix fixId).toDict),
      (lit "regression_evidence", .arr [(sampleRegression regressionId).toDict])]) := by
    refine Migration.encodes_obj ?_
    simp only [List.forall_mem_cons, List.not_mem_nil, false_implies, implies_true, and_true]
    exact ⟨⟨by rfl, Migration.encodes_str (utf8_of_taggedHex revisionStem hid)⟩, ⟨by rfl, hfixEncodes⟩, by rfl,
      Migration.encodes_arr (List.forall_mem_singleton.mpr hregressionEncodes)⟩
  obtain ⟨digest, hdigest, hvalid⟩ := @Authorization.sha256_of_encodes hash codec _ hencodes
  refine ⟨digest, ?_, hvalid⟩
  simp only [evidenceBundleSha256, hkind, hnamed, hids, Option.bind_some, hfixed, collect, hregressed, bind_eq_ok,
    demand_eq_ok, pure_eq_ok]
  exact ⟨_, rfl, _, ⟨_, rfl, _, rfl, rfl⟩, hdigest⟩

def lessonSubmission (c : Proposal) : Submission := ⟨c.revision, none, [], suppliedFix c, suppliedRegression c⟩

def approvedBy (approver : Str) : ApprovalEvent := ⟨approver, lit "client", sampleTime.text, sampleDigest 'a'⟩

def activatedBy (activator : Str) : ActivationEvent := ⟨activator, lit "client", sampleTime.text, sampleDigest 'a'⟩

-- a well-formed lesson, stored, approved by whom the evidence check lets pass, and activated
structure Published (hash : TextHash) (bytes : ContentHash) (c : Proposal) (approver : Str)
    (approvalGrant grant : Grant) (approval : MemoryRevisionApproval) (activation : MemoryRevisionActivation) : Prop where
  revision : c.revision.check hash sampleFloats = .ok ()
  fix : ∀ e ∈ c.fixEvidence, e.check hash sampleFloats = .ok ()
  regressions : ∀ e ∈ c.regressionEvidence, e.check hash sampleFloats = .ok ()
  lesson : c.revision.memoryKind = .lesson
  stored : ∃ out, storeProposal sampleFloats .empty c = .ok out
  approved : approveMemoryRevision hash bytes sampleFloats (lessonSubmission c) approvalGrant (approvedBy approver) =
    .ok approval
  activated : activateMemoryRevision hash bytes sampleFloats (lessonSubmission c) approval approvalGrant none grant
    (activatedBy (lit "activator")) = .ok activation
  runner : ∃ e ∈ c.regressionEvidence, lit "runner" ∈ e.relationVerifiers

theorem exists_published (hash : TextHash) (bytes : ContentHash) {approver : Str}
    (happrover : sound memoryIdMaxChars approver = true)
    (hfresh : approver ∉ [lit "submitter", lit "reviewer", lit "git", lit "submitter", lit "verifier"])
    (hauthor : approver ≠ lit "author") (hactivator : lit "activator" ≠ approver) :
    ∃ c approvalGrant grant approval activation,
      Published hash bytes c approver approvalGrant grant approval activation := by
  obtain ⟨fixId, hfixId, hfix⟩ := @derivedId_total hash sampleFloats _ (encodes_sampleFix []) "fix_evidence_sha256_"
  obtain ⟨regressionId, hregressionId, hregression⟩ :=
    @derivedId_total hash sampleFloats _ (encodes_sampleRegression []) "regression_sha256_"
  have hfields := @lessonProposal_fields bytes _ _ hfix hregression
  obtain ⟨id, hid, htagged⟩ := @DraftFields.named hash sampleFloats _ (hfields [])
  obtain ⟨digest, hdigest, hvalid⟩ := @lessonProposal_digest hash bytes sampleFloats _ _ hfix hregression _ htagged
  have htenant : sound memoryIdMaxChars (lit "tenant") = true := sound_lit rfl
  have hclient : sound memoryIdMaxChars (lit "client") = true := sound_lit rfl
  have hactivatorSound : sound memoryIdMaxChars (lit "activator") = true := sound_lit rfl
  obtain ⟨d, hgrant, hdecision, -⟩ := @exists_grant _ _ _ hash sampleFloats happrover hclient htenant .memoryReview
    (by decide) sampleTime le_rfl
  obtain ⟨d', hgrant', hdecision', -⟩ := @exists_grant _ _ _ hash sampleFloats hactivatorSound hclient htenant
    .memoryActivate (by decide) sampleTime le_rfl
  have hpublishable : Publishable (lessonProposal bytes fixId regressionId id).revision (lit "tenant") :=
    ⟨htagged, (hfields id).memoryId, rfl, (hfields id).number, htenant, rfl⟩
  have hactors : lit "activator" ∉ [lit "submitter", lit "reviewer", lit "git", lit "submitter", lit "verifier"] := by
    decide
  have hactivatorAuthor : lit "activator" ≠ lit "author" := by decide
  obtain ⟨approval, happroved⟩ := @approve_total hash bytes sampleFloats
    (lessonSubmission (lessonProposal bytes fixId regressionId id))
    ⟨publisherPolicy approver (lit "client") (lit "tenant"),
      publisherRequest approver (lit "client") (lit "tenant") .memoryReview, d⟩ (approvedBy approver) _ digest sampleTime
    hpublishable
    (lineage_eq_ok.mpr (.inl ⟨rfl, rfl⟩)) (decide_eq_true ⟨rfl, rfl⟩) (lessonProposal_sound id).verified happrover hclient
    hauthor (lessonProposal_independent id hfresh) rfl le_rfl hgrant hdecision hdigest hvalid validDigest_sample
  have happroval := approve_eq_ok happroved
  have happrovedAt : approval.approvedAt = sampleTime :=
    Except.ok.inj (happroval.approvedAt.symm.trans (publicationTime_time sampleTime _))
  have hevent : (⟨approval.approvedBy, approval.approvedViaClientId, approval.approvedAt.text,
      approval.approvalAttestationSha256⟩ : ApprovalEvent) = approvedBy approver := by
    rw [happroval.approvedBy, happroval.approvedVia, happrovedAt, happroval.attestation]
    rfl
  obtain ⟨activation, hactivated, -⟩ := @activate_total hash bytes sampleFloats
    (lessonSubmission (lessonProposal bytes fixId regressionId id)) approval
    ⟨publisherPolicy approver (lit "client") (lit "tenant"),
      publisherRequest approver (lit "client") (lit "tenant") .memoryReview, d⟩
    ⟨publisherPolicy (lit "activator") (lit "client") (lit "tenant"),
      publisherRequest (lit "activator") (lit "client") (lit "tenant") .memoryActivate, d'⟩
    (activatedBy (lit "activator")) _ sampleTime none hpublishable (activationLineage_eq_ok.mpr (.inl ⟨rfl, rfl⟩))
    (fun p hp => absurd hp (Option.not_mem_none p)) (by rw [hevent]; exact happroved) hactivatorSound hclient
    (by rw [happroval.approvedBy, List.mem_pair, not_or]; exact ⟨hactivatorAuthor, hactivator⟩)
    (lessonProposal_independent id hactors) rfl (by rw [happrovedAt]) hgrant' hdecision' validDigest_sample
  refine ⟨lessonProposal bytes fixId regressionId id, _, _, approval, activation,
    (hfields id).check hid (Option.some_ne_none _).symm, ?_, ?_, rfl, lessonProposal_stored hfix hregression htagged,
    happroved, hactivated, _, List.mem_singleton_self _, ?_⟩
  · rintro e he
    obtain rfl := Option.some.inj he
    exact sampleFix_check hfixId
  · exact List.forall_mem_singleton.mpr (sampleRegression_check hregressionId)
  · exact List.mem_cons_of_mem _ (List.mem_singleton_self _)

theorem presents_lessonSubmission (c : Proposal) : Presents (lessonSubmission c) c :=
  ⟨rfl, fun _ _ => rfl, fun _ _ => rfl⟩

end Sample

section Separation

variable {hash : TextHash} {bytes : ContentHash} {codec : FloatCodec} {db : PublicationDb} {c : Proposal} {s : Submission}

-- the three who publish a lesson are separate from its evidence exactly when
-- none of them verified a commit relation of its regression evidence
theorem duties_separate_iff (hlesson : c.revision.memoryKind = .lesson) {out : PublicationDb × StoreResult}
    (hstored : storeProposal codec db c = .ok out) (hp : Presents s c) {approvalGrant : Grant} {approved : ApprovalEvent}
    {approval : MemoryRevisionApproval}
    (happroval : approveMemoryRevision hash bytes codec s approvalGrant approved = .ok approval)
    {previous : Option MemoryRevisionActivation} {grant : Grant} {activated : ActivationEvent}
    {activation : MemoryRevisionActivation}
    (hactivation : activateMemoryRevision hash bytes codec s approval approvalGrant previous grant activated =
      .ok activation) :
    (∀ actor ∈ [c.revision.proposedBy, approval.approvedBy, activation.activatedBy], actor ∉ evidenceActors c) ↔
      ∀ actor ∈ [c.revision.proposedBy, approval.approvedBy, activation.activatedBy], ∀ e ∈ c.regressionEvidence,
        actor ∉ e.relationVerifiers := by
  obtain ⟨hsound, -⟩ := storeProposal_eq_ok hstored
  have hnamed := storeProposal_named hstored
  have happroved := approve_eq_ok happroval
  have hactivated := activate_eq_ok hactivation
  have hseparate : ∀ actor ∈ [c.revision.proposedBy, approval.approvedBy, activation.activatedBy],
      (∀ fix ∈ c.fixEvidence, actor ∉ fix.actors) ∧ ∀ e ∈ c.regressionEvidence, actor ∉ e.actors := by
    simp only [List.forall_mem_cons, List.not_mem_nil, false_implies, implies_true, and_true]
    refine ⟨proposer_separate hsound hnamed hlesson, ?_, ?_⟩
    · rw [happroved.approvedBy]
      exact independent_separate hsound hnamed hlesson hp happroved.independent
    · rw [hactivated.activatedBy]
      exact independent_separate hsound hnamed hlesson hp hactivated.independent
  refine forall₂_congr fun actor hactor => ?_
  obtain ⟨hfix, hregression⟩ := hseparate actor hactor
  rw [mem_evidenceActors]
  constructor
  · exact fun h e he hmem => h (.inr ⟨e, he, .inr hmem⟩)
  · rintro h (⟨fix, hgiven, hmem⟩ | ⟨e, he, hmem | hmem⟩)
    · exact hfix fix hgiven hmem
    · exact hregression e he hmem
    · exact h e he hmem

theorem duties_separate_approver : ∃ c approvalGrant grant approval activation,
    Published sampleTexts sampleHash c (lit "approver") approvalGrant grant approval activation ∧
      ((∀ actor ∈ [c.revision.proposedBy, approval.approvedBy, activation.activatedBy], actor ∉ evidenceActors c) ↔
        ∀ actor ∈ [c.revision.proposedBy, approval.approvedBy, activation.activatedBy], ∀ e ∈ c.regressionEvidence,
          actor ∉ e.relationVerifiers) := by
  obtain ⟨c, approvalGrant, grant, approval, activation, h⟩ := @exists_published sampleTexts sampleHash (lit "approver")
    (sound_lit rfl) (by decide) (by decide) (by decide)
  obtain ⟨out, hstored⟩ := h.stored
  exact ⟨c, approvalGrant, grant, approval, activation, h,
    duties_separate_iff h.lesson hstored (presents_lessonSubmission c) h.approved h.activated⟩

theorem relation_verifier_approves : ∃ c approvalGrant grant approval activation,
    Published sampleTexts sampleHash c (lit "runner") approvalGrant grant approval activation ∧
      approval.approvedBy ∈ evidenceActors c := by
  obtain ⟨c, approvalGrant, grant, approval, activation, h⟩ := @exists_published sampleTexts sampleHash (lit "runner")
    (sound_lit rfl) (by decide) (by decide) (by decide)
  refine ⟨c, approvalGrant, grant, approval, activation, h, ?_⟩
  obtain ⟨e, he, hrunner⟩ := h.runner
  rw [(approve_eq_ok h.approved).approvedBy]
  exact mem_evidenceActors.mpr (.inr ⟨e, he, .inr hrunner⟩)

end Separation

end Publication

end TraceBackedMemory
