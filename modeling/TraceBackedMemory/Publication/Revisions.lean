import TraceBackedMemory.Publication.Evidence

namespace TraceBackedMemory

open Text Raising OrderBy Json Replay

namespace Publication

open EventContract (TextHash)

open Migration (AuthorizationScope MemoryScopeKind jsonStrings nullable sortedStrings)

open SemanticGate (taggedHex isRevisionId)

section Checks

def revisionInvalid (message : Str) : GateError := ⟨.contract, lit "TBM_MEMORY_REVISION_INVALID", message⟩

def revisionIdentifier (value name : Str) : Except GateError Unit := do
  boundedText revisionInvalid memoryIdMaxChars "a nonblank bounded identifier" value name
  raiseIf (utf8 value = false) (revisionInvalid (name ++ lit " must be valid UTF-8"))

-- None is no string, and so is refused as a blank one is
def requiredReference (value : Option Str) (name : Str) : Except GateError Unit :=
  revisionIdentifier (value.getD []) name

def checkConfidence (x : Double) : Except GateError Unit :=
  raiseIf (x.isFinite = false ∨ x.scaled < 0 ∨ Double.one.scaled < x.scaled)
    (revisionInvalid (lit "confidence must be a finite number from 0.0 to 1.0"))

def maxEvidenceIds : Nat := 100

def isEvidenceId : Str → Bool := taggedHex "regression_sha256_"

def checkEvidenceIds (ids : List Str) : Except GateError Unit := do
  raiseIf (maxEvidenceIds < ids.length) (revisionInvalid (lit "regression_evidence_ids must be a bounded tuple"))
  raiseIf (∃ id ∈ ids, isEvidenceId id = false)
    (revisionInvalid (lit "regression_evidence_ids contain an invalid evidence ID"))
  raiseIf (¬ids.Nodup) (revisionInvalid (lit "regression_evidence_ids must not contain duplicates"))
  raiseIf (sortedStrings ids ≠ ids) (revisionInvalid (lit "regression_evidence_ids must be sorted"))

def sensitiveClass (c : EventClassification) : Bool := decide (c = .confidential ∨ c = .restricted)

end Checks

section Revisions

structure MemoryRevision where
  revisionId : Str
  memoryId : Str
  memoryKind : MemoryScopeKind
  revisionNumber : Nat
  previousRevisionId : Option Str
  memoryType : MemoryType
  contentArtifact : ContentAddressedArtifact
  scope : AuthorizationScope
  confidence : Double
  sensitive : Bool
  evalLeaking : Bool
  sourceCaseId : Option Str
  sourceCaseRevisionId : Option Str
  fixEvidenceId : Option Str
  regressionEvidenceIds : List Str
  proposedBy : Str
  proposedViaClientId : Str
  proposedAt : CanonicalTime
  proposalAttestationSha256 : Str
  deriving DecidableEq

def artifactEntries (a : ContentAddressedArtifact) : Fields :=
  [(lit "artifact_id", .str a.artifactId), (lit "content_sha256", .str a.contentSha256),
    (lit "size_bytes", .num (.int a.sizeBytes)), (lit "media_type", .str a.mediaType),
    (lit "classification", .str a.classification.text), (lit "created_at", .str a.createdAt.text),
    (lit "encryption_key_id", nullable a.encryptionKeyId), (lit "redaction_policy_id", nullable a.redactionPolicyId)]

namespace MemoryRevision

variable (r : MemoryRevision)

def unsigned : Fields :=
  [(lit "contract_version", .str (lit "tbm.memory-revision.v3")), (lit "memory_id", .str r.memoryId),
    (lit "memory_kind", .str r.memoryKind.text), (lit "revision_number", .num (.int r.revisionNumber)),
    (lit "previous_revision_id", nullable r.previousRevisionId), (lit "memory_type", .str r.memoryType.text),
    (lit "content_artifact", .obj (artifactEntries r.contentArtifact)), (lit "scope", .obj r.scope.entries),
    (lit "confidence", .num (.float r.confidence)), (lit "sensitive", .bool r.sensitive),
    (lit "eval_leaking", .bool r.evalLeaking), (lit "source_case_id", nullable r.sourceCaseId),
    (lit "source_case_revision_id", nullable r.sourceCaseRevisionId), (lit "fix_evidence_id", nullable r.fixEvidenceId),
    (lit "regression_evidence_ids", jsonStrings r.regressionEvidenceIds), (lit "proposed_by", .str r.proposedBy),
    (lit "proposed_via_client_id", .str r.proposedViaClientId), (lit "proposed_at", .str r.proposedAt.text),
    (lit "proposal_attestation_sha256", .str r.proposalAttestationSha256)]

def toDict : Json := .obj (r.unsigned ++ [(lit "revision_id", .str r.revisionId)])

def memoryRevisionId (hash : TextHash) (codec : FloatCodec) : Except GateError Str :=
  derivedId hash codec "memory_revision_sha256_" (.obj r.unsigned)

def checkLineage : Except GateError Unit := do
  raiseIf (r.revisionNumber < 1) (revisionInvalid (lit "revision_number must be a positive integer"))
  if r.revisionNumber = 1 then
    raiseIf (r.previousRevisionId ≠ none) (revisionInvalid (lit "first revision must not have previous_revision_id"))
  else do
    raiseIf (r.previousRevisionId.all isRevisionId = false ∨ r.previousRevisionId = none)
      (revisionInvalid (lit "previous_revision_id must reference a memory revision"))
    raiseIf (r.previousRevisionId = some r.revisionId)
      (revisionInvalid (lit "revision must not reference itself as previous"))

def checkReferences : Except GateError Unit :=
  match r.memoryKind with
  | .lesson => do
    requiredReference r.sourceCaseId (lit "source_case_id")
    requiredReference r.sourceCaseRevisionId (lit "source_case_revision_id")
    requiredReference r.fixEvidenceId (lit "fix_evidence_id")
    raiseIf (r.regressionEvidenceIds = []) (revisionInvalid (lit "lesson revision requires regression evidence"))
  | .projectPolicy => do
    raiseIf (r.regressionEvidenceIds ≠ [])
      (revisionInvalid (lit "project_policy revision forbids regression evidence"))
    raiseIf (r.sourceCaseId ≠ none ∨ r.sourceCaseRevisionId ≠ none ∨ r.fixEvidenceId ≠ none)
      (revisionInvalid (lit "project_policy revision forbids case/fix references"))

-- the scope is checked by its own constructor, before the revision exists
def check (hash : TextHash) (codec : FloatCodec) : Except GateError Unit := do
  r.scope.check
  raiseIf (isRevisionId r.revisionId = false)
    (revisionInvalid (lit "revision_id must be memory_revision_sha256_<64 lowercase hex>"))
  revisionIdentifier r.memoryId (lit "memory_id")
  r.checkLineage
  raiseIf (r.memoryKind = .projectPolicy ∧ r.memoryType ≠ .policy)
    (revisionInvalid (lit "project_policy revision must use policy memory_type"))
  checkConfidence r.confidence
  raiseIf (r.sensitive = true ∧ sensitiveClass r.contentArtifact.classification = false)
    (revisionInvalid (lit "sensitive revision requires sensitive classification"))
  raiseIf (r.sensitive = false ∧ sensitiveClass r.contentArtifact.classification = true)
    (revisionInvalid (lit "sensitive classification requires sensitive=true"))
  checkEvidenceIds r.regressionEvidenceIds
  r.checkReferences
  revisionIdentifier r.proposedBy (lit "proposed_by")
  revisionIdentifier r.proposedViaClientId (lit "proposed_via_client_id")
  taggedDigest revisionInvalid r.proposalAttestationSha256 (lit "proposal_attestation_sha256")
  raiseIf (r.proposedAt.instant < r.contentArtifact.createdAt.instant)
    (revisionInvalid (lit "content artifact must not be created after proposal"))
  let expected ← r.memoryRevisionId hash codec
  raiseIf (r.revisionId ≠ expected)
    ⟨.contract, lit "TBM_MEMORY_REVISION_HASH_MISMATCH", lit "revision_id does not match canonical revision content"⟩

-- the record that the JSON text of a revision gives back
def canonical : MemoryRevision := { r with scope := r.scope.canonical }

end MemoryRevision

def buildMemoryRevision (hash : TextHash) (codec : FloatCodec) (draft : MemoryRevision) :
    Except GateError MemoryRevision := do
  let ids := sortedStrings draft.regressionEvidenceIds
  checkEvidenceIds ids
  checkConfidence draft.confidence
  let r : MemoryRevision := { draft.canonical with regressionEvidenceIds := ids }
  let revisionId ← (r.memoryRevisionId hash codec).mapError
    (fun _ => revisionInvalid (lit "revision content is not canonical JSON"))
  let built : MemoryRevision := { r with revisionId := revisionId }
  built.check hash codec
  return built

end Revisions

section Evidence

variable (r : MemoryRevision) (fixes : Str → Option FixEvidence)
  (regressions : Str → Option StructuredRegressionEvidence)

def verifyRegression (id : Str) : Except GateError Unit := do
  let e ← demand (regressions id) (revisionInvalid (lit "missing structured evidence: " ++ id))
  raiseIf (e.evidenceId ≠ id) (revisionInvalid (lit "structured evidence identity does not match reference"))
  raiseIf (e.result ≠ .pass) (revisionInvalid (lit "lesson revision requires passing structured evidence"))
  raiseIf (some e.caseId ≠ r.sourceCaseId) (revisionInvalid (lit "structured evidence does not match source_case_id"))
  raiseIf (r.proposedBy ∈ [e.submitterId, e.verifierId])
    (revisionInvalid (lit "revision proposer must be independent of evidence actors"))

def verifyMemoryRevisionEvidence : Except GateError Unit :=
  match r.memoryKind with
  | .projectPolicy =>
    raiseIf (r.regressionEvidenceIds ≠ [])
      (revisionInvalid (lit "project_policy evidence requires a separate policy review"))
  | .lesson => checkEach (verifyRegression r regressions) r.regressionEvidenceIds

def verifyAgreement (fix : FixEvidence) (id : Str) : Except GateError Unit := do
  let e ← demand (regressions id) (revisionInvalid (lit "missing structured evidence: " ++ id))
  raiseIf (e.sourceTraceId ≠ fix.sourceTraceId)
    (revisionInvalid (lit "regression and fix evidence source traces do not match"))
  raiseIf (e.sourceCommitSha ≠ fix.sourceCommitSha)
    (revisionInvalid (lit "regression and fix evidence source commits do not match"))
  raiseIf (e.fixCommitSha ≠ fix.fixCommitSha)
    (revisionInvalid (lit "regression evidence does not verify the recorded fix commit"))

def FixEvidence.actors (fix : FixEvidence) : List Str :=
  [fix.submitterId, fix.reviewerId, fix.sourceToFix.relation.verifiedBy]

def verifyMemoryRevisionEvidenceBundle : Except GateError Unit := do
  verifyMemoryRevisionEvidence r regressions
  match r.memoryKind with
  | .projectPolicy =>
    raiseIf (r.fixEvidenceId ≠ none) (revisionInvalid (lit "project_policy revision forbids fix evidence"))
  | .lesson => do
    let fix ← demand (r.fixEvidenceId.bind fixes)
      (revisionInvalid (lit "missing fix evidence: " ++ r.fixEvidenceId.getD (lit "None")))
    raiseIf (some fix.evidenceId ≠ r.fixEvidenceId)
      (revisionInvalid (lit "fix evidence identity does not match reference"))
    raiseIf (some fix.caseId ≠ r.sourceCaseId) (revisionInvalid (lit "fix evidence does not match source_case_id"))
    raiseIf (r.proposedBy ∈ fix.actors)
      (revisionInvalid (lit "revision proposer must be independent of fix evidence actors"))
    checkEach (verifyAgreement regressions fix) r.regressionEvidenceIds

end Evidence

end Publication

end TraceBackedMemory
