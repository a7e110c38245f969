import TraceBackedMemory.Authorization.Answers

namespace TraceBackedMemory

open Text Raising OrderBy Json

namespace Publication

open EventContract (TextHash)

open Migration (CommitRelationEvidence MeasuredResult jsonStrings sortedStrings canonicalSha256)

open SemanticGate (taggedHex)

section Checks

def evidenceInvalid (message : Str) : GateError := ⟨.contract, lit "TBM_EVIDENCE_INVALID", message⟩

def fixInvalid (message : Str) : GateError := ⟨.contract, lit "TBM_FIX_EVIDENCE_INVALID", message⟩

def boundedText (fault : Str → GateError) (limit : Nat) (kind : String) (value name : Str) : Except GateError Unit :=
  raiseIf (isBlank value = true ∨ limit < value.length) (fault (name ++ lit " must be " ++ lit kind))

def evidenceMetadataMaxChars : Nat := 2000

def evidenceIdentifier : Str → Str → Except GateError Unit :=
  boundedText evidenceInvalid memoryIdMaxChars "a nonblank bounded identifier"

def evidenceMetadata : Str → Str → Except GateError Unit :=
  boundedText evidenceInvalid evidenceMetadataMaxChars "nonblank bounded text"

def fixIdentifier : Str → Str → Except GateError Unit :=
  boundedText fixInvalid memoryIdMaxChars "a nonblank bounded identifier"

def fixMetadata : Str → Str → Except GateError Unit :=
  boundedText fixInvalid evidenceMetadataMaxChars "nonblank bounded text"

def taggedDigest (fault : Str → GateError) (value name : Str) : Except GateError Unit :=
  raiseIf (validDigest value = false) (fault (name ++ lit " must be sha256:<64 lowercase hex>"))

def maxEvidenceArtifactHashes : Nat := 1000

def maxEnvironmentEntries : Nat := 100

def environmentKeyMaxChars : Nat := 256

def evidenceArtifactHashes (fault : Str → GateError) (hashes : List Str) : Except GateError Unit := do
  raiseIf (maxEvidenceArtifactHashes < hashes.length) (fault (lit "artifact_hashes must be a bounded tuple"))
  checkEach (fun v => taggedDigest fault v (lit "artifact_hash")) hashes
  raiseIf (¬hashes.Nodup) (fault (lit "artifact_hashes must not contain duplicates"))
  raiseIf (sortedStrings hashes ≠ hashes) (fault (lit "artifact_hashes must be sorted"))

def environmentEntry (pair : Str × Str) : Except GateError Unit := do
  raiseIf (isBlank pair.1 = true ∨ environmentKeyMaxChars < pair.1.length)
    (evidenceInvalid (lit "environment keys must be nonblank bounded strings"))
  evidenceMetadata pair.2 (lit "environment value")

-- pairs compare by key first, and the keys are distinct
def environmentOrder (pair : Str × Str) : Str ×ₗ Str := toLex pair

def checkEnvironment (environment : List (Str × Str)) : Except GateError Unit := do
  raiseIf (maxEnvironmentEntries < environment.length) (evidenceInvalid (lit "environment must be a bounded tuple"))
  checkEach environmentEntry environment
  raiseIf (orderBy environmentOrder environment ≠ environment)
    (evidenceInvalid (lit "environment entries must be sorted"))
  raiseIf (¬(environment.map Prod.fst).Nodup) (evidenceInvalid (lit "environment keys must be unique"))

-- a commit relation as evidence keeps it, checked and with a canonical time
structure VerifiedRelation where
  relation : CommitRelationEvidence
  checked : relation.check = .ok ()
  canonical : CanonicalText relation.verifiedAt
  deriving DecidableEq

namespace VerifiedRelation

def instant (r : VerifiedRelation) : Nat := micros r.relation.verifiedAt

def binds (r : VerifiedRelation) (source target : Str) : Prop :=
  r.relation.fromCommitSha = source ∧ r.relation.toCommitSha = target

instance (r : VerifiedRelation) (source target : Str) : Decidable (r.binds source target) :=
  inferInstanceAs (Decidable (_ ∧ _))

end VerifiedRelation

variable (hash : TextHash) (codec : FloatCodec)

def derivedId (stem : String) (content : Json) : Except GateError Str := do
  let digest ← canonicalSha256 hash codec content
  return lit stem ++ digest.drop 7

end Checks

section FixEvidence

structure FixEvidence where
  evidenceId : Str
  caseId : Str
  sourceTraceId : Str
  sourceCommitSha : Str
  fixCommitSha : Str
  sourceToFix : VerifiedRelation
  artifactHashes : List Str
  submitterId : Str
  submittedAt : CanonicalTime
  reviewerId : Str
  reviewedAt : CanonicalTime
  attestationSha256 : Str
  deriving DecidableEq

namespace FixEvidence

variable (e : FixEvidence)

def unsigned : Fields :=
  [(lit "contract_version", .str (lit "tbm.fix-evidence.v3")), (lit "case_id", .str e.caseId),
    (lit "source_trace_id", .str e.sourceTraceId), (lit "source_commit_sha", .str e.sourceCommitSha),
    (lit "fix_commit_sha", .str e.fixCommitSha), (lit "source_to_fix", .obj e.sourceToFix.relation.entries),
    (lit "artifact_hashes", jsonStrings e.artifactHashes), (lit "submitter_id", .str e.submitterId),
    (lit "submitted_at", .str e.submittedAt.text), (lit "reviewer_id", .str e.reviewerId),
    (lit "reviewed_at", .str e.reviewedAt.text), (lit "attestation_sha256", .str e.attestationSha256)]

def toDict : Json := .obj (e.unsigned ++ [(lit "evidence_id", .str e.evidenceId)])

def fixEvidenceId (hash : TextHash) (codec : FloatCodec) : Except GateError Str :=
  derivedId hash codec "fix_evidence_sha256_" (.obj e.unsigned)

def check (hash : TextHash) (codec : FloatCodec) : Except GateError Unit := do
  raiseIf (taggedHex "fix_evidence_sha256_" e.evidenceId = false)
    (fixInvalid (lit "evidence_id must be fix_evidence_sha256_<64 lowercase hex>"))
  fixIdentifier e.caseId (lit "case_id")
  fixIdentifier e.sourceTraceId (lit "source_trace_id")
  fixIdentifier e.submitterId (lit "submitter_id")
  fixIdentifier e.reviewerId (lit "reviewer_id")
  raiseIf (e.submitterId = e.reviewerId) (fixInvalid (lit "submitter_id and reviewer_id must differ"))
  fixMetadata e.sourceCommitSha (lit "source_commit_sha")
  fixMetadata e.fixCommitSha (lit "fix_commit_sha")
  raiseIf (e.sourceCommitSha = e.fixCommitSha) (fixInvalid (lit "fix_commit_sha must differ from source_commit_sha"))
  raiseIf (¬e.sourceToFix.binds e.sourceCommitSha e.fixCommitSha)
    (fixInvalid (lit "source_to_fix does not bind source and fix commits"))
  evidenceArtifactHashes fixInvalid e.artifactHashes
  raiseIf (e.submittedAt.instant < e.sourceToFix.instant)
    (fixInvalid (lit "source_to_fix must be verified before submission"))
  raiseIf (e.reviewedAt.instant < e.submittedAt.instant) (fixInvalid (lit "reviewed_at must not precede submitted_at"))
  taggedDigest fixInvalid e.attestationSha256 (lit "attestation_sha256")
  let expected ← e.fixEvidenceId hash codec
  raiseIf (e.evidenceId ≠ expected)
    ⟨.contract, lit "TBM_FIX_EVIDENCE_HASH_MISMATCH", lit "evidence_id does not match canonical fix evidence content"⟩

end FixEvidence

end FixEvidence

section RegressionEvidence

structure StructuredRegressionEvidence where
  evidenceId : Str
  caseId : Str
  sourceTraceId : Str
  verificationTraceId : Str
  verificationRunId : Str
  evaluatorId : Str
  evaluatorVersion : Str
  evaluationSuite : Str
  evaluationCaseId : Str
  expectedOutcome : Str
  observedOutcome : Str
  result : MeasuredResult
  environment : List (Str × Str)
  sourceCommitSha : Str
  fixCommitSha : Str
  verificationCommitSha : Str
  sourceToFix : VerifiedRelation
  fixToVerification : VerifiedRelation
  artifactHashes : List Str
  submitterId : Str
  submittedAt : CanonicalTime
  verifierId : Str
  verifiedAt : CanonicalTime
  attestationSha256 : Str
  deriving DecidableEq

namespace StructuredRegressionEvidence

variable (e : StructuredRegressionEvidence)

def identifiers : List (Str × Str) :=
  [(e.caseId, lit "case_id"), (e.sourceTraceId, lit "source_trace_id"),
    (e.verificationTraceId, lit "verification_trace_id"), (e.verificationRunId, lit "verification_run_id"),
    (e.evaluatorId, lit "evaluator_id"), (e.submitterId, lit "submitter_id"), (e.verifierId, lit "verifier_id")]

def metadata : List (Str × Str) :=
  [(e.evaluatorVersion, lit "evaluator_version"), (e.evaluationSuite, lit "evaluation_suite"),
    (e.evaluationCaseId, lit "evaluation_case_id"), (e.expectedOutcome, lit "expected_outcome"),
    (e.observedOutcome, lit "observed_outcome"), (e.sourceCommitSha, lit "source_commit_sha"),
    (e.fixCommitSha, lit "fix_commit_sha"), (e.verificationCommitSha, lit "verification_commit_sha")]

def unsigned : Fields :=
  [(lit "contract_version", .str (lit "tbm.regression-evidence.v3")), (lit "case_id", .str e.caseId),
    (lit "source_trace_id", .str e.sourceTraceId), (lit "verification_trace_id", .str e.verificationTraceId),
    (lit "verification_run_id", .str e.verificationRunId), (lit "evaluator_id", .str e.evaluatorId),
    (lit "evaluator_version", .str e.evaluatorVersion), (lit "evaluation_suite", .str e.evaluationSuite),
    (lit "evaluation_case_id", .str e.evaluationCaseId), (lit "expected_outcome", .str e.expectedOutcome),
    (lit "observed_outcome", .str e.observedOutcome), (lit "result", .str e.result.text),
    (lit "environment", .obj (e.environment.map (fun p => (p.1, .str p.2)))),
    (lit "source_commit_sha", .str e.sourceCommitSha), (lit "fix_commit_sha", .str e.fixCommitSha),
    (lit "verification_commit_sha", .str e.verificationCommitSha),
    (lit "source_to_fix", .obj e.sourceToFix.relation.entries),
    (lit "fix_to_verification", .obj e.fixToVerification.relation.entries),
    (lit "artifact_hashes", jsonStrings e.artifactHashes), (lit "submitter_id", .str e.submitterId),
    (lit "submitted_at", .str e.submittedAt.text), (lit "verifier_id", .str e.verifierId),
    (lit "verified_at", .str e.verifiedAt.text), (lit "attestation_sha256", .str e.attestationSha256)]

def toDict : Json := .obj (e.unsigned ++ [(lit "evidence_id", .str e.evidenceId)])

def regressionEvidenceId (hash : TextHash) (codec : FloatCodec) : Except GateError Str :=
  derivedId hash codec "regression_sha256_" (.obj e.unsigned)

def check (hash : TextHash) (codec : FloatCodec) : Except GateError Unit := do
  raiseIf (taggedHex "regression_sha256_" e.evidenceId = false)
    (evidenceInvalid (lit "evidence_id must be regression_sha256_<64 lowercase hex>"))
  checkEach (fun f => evidenceIdentifier f.1 f.2) e.identifiers
  raiseIf (e.sourceTraceId = e.verificationTraceId)
    (evidenceInvalid (lit "verification_trace_id must differ from source_trace_id"))
  raiseIf (e.submitterId = e.verifierId) (evidenceInvalid (lit "submitter_id and verifier_id must differ"))
  checkEach (fun f => evidenceMetadata f.1 f.2) e.metadata
  checkEnvironment e.environment
  raiseIf (¬e.sourceToFix.binds e.sourceCommitSha e.fixCommitSha)
    (evidenceInvalid (lit "source_to_fix does not bind source and fix commits"))
  raiseIf (¬e.fixToVerification.binds e.fixCommitSha e.verificationCommitSha)
    (evidenceInvalid (lit "fix_to_verification does not bind fix and verification commits"))
  evidenceArtifactHashes evidenceInvalid e.artifactHashes
  raiseIf (e.verifiedAt.instant < e.submittedAt.instant)
    (evidenceInvalid (lit "verified_at must not precede submitted_at"))
  raiseIf (e.fixToVerification.instant < e.sourceToFix.instant)
    (evidenceInvalid (lit "source_to_fix verification must not follow fix_to_verification"))
  raiseIf (e.submittedAt.instant < e.fixToVerification.instant)
    (evidenceInvalid (lit "commit relationships must be verified before submission"))
  taggedDigest evidenceInvalid e.attestationSha256 (lit "attestation_sha256")
  let expected ← e.regressionEvidenceId hash codec
  raiseIf (e.evidenceId ≠ expected)
    ⟨.contract, lit "TBM_EVIDENCE_HASH_MISMATCH", lit "evidence_id does not match canonical evidence content"⟩

end StructuredRegressionEvidence

end RegressionEvidence

end Publication

end TraceBackedMemory
