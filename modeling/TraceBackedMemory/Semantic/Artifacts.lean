import TraceBackedMemory.Replay.Artifacts

namespace TraceBackedMemory

open Text Raising Replay

namespace SemanticGate

variable {sha : Sha256} {hash : ContentHash}

section Bindings

def invalidArtifact (message : Str) : GateError :=
  ⟨.contract, lit "TBM_SEMANTIC_GATE_ARTIFACT_INVALID", message⟩

def promptMaxChars : Nat := 32000

def promptMaxBytes : Nat := promptMaxChars * 4

def responseMaxBytes : Nat := 64 * 1024

def promptMediaType : Str := lit "text/plain; charset=utf-8"

inductive ArtifactRole where
  | prompt | response
  deriving DecidableEq

def ArtifactRole.text : ArtifactRole → Str
  | .prompt => lit "prompt"
  | .response => lit "response"

def maximumBytes : ArtifactRole → Nat
  | .prompt => promptMaxBytes
  | .response => responseMaxBytes

def promptChars? (content : List UInt8) : Option Nat :=
  (String.fromUTF8? ⟨content.toArray⟩).map String.length

def roleContentIsValid (role : ArtifactRole) (content : List UInt8) : Bool :=
  decide (content ≠ []) &&
    match role with
    | .response => decide (content.length ≤ responseMaxBytes)
    | .prompt => (promptChars? content).any (fun n => decide (n ≤ promptMaxChars))

structure BindingFields where
  artifactRole : ArtifactRole
  attemptId : Str
  artifact : ContentAddressedArtifact
  deriving DecidableEq

def BindingFields.check (b : BindingFields) : Except GateError Unit := do
  raiseIf (isAttemptId b.attemptId = false)
    (invalidArtifact (lit "attempt_id must be semantic_attempt_sha256_<64 lowercase hex>"))
  raiseIf (b.artifact.sizeBytes = 0)
    (invalidArtifact (lit "Semantic Gate artifact content must not be empty"))
  raiseIf (b.artifactRole = .prompt ∧ b.artifact.mediaType ≠ promptMediaType)
    (invalidArtifact (lit "prompt artifact media_type must be " ++ promptMediaType))
  raiseIf (maximumBytes b.artifactRole < b.artifact.sizeBytes)
    (invalidArtifact (b.artifactRole.text ++ lit " artifact exceeds maximum size of " ++
      decimal (maximumBytes b.artifactRole) ++ lit " bytes"))

structure SemanticGateArtifactBinding extends BindingFields where
  checked : toBindingFields.check = .ok ()
  deriving DecidableEq

def BindingFields.accept (b : BindingFields) : Except GateError SemanticGateArtifactBinding :=
  match h : b.check with
  | .ok _ => .ok ⟨b, h⟩
  | .error e => .error e

structure StoredFields where
  binding : SemanticGateArtifactBinding
  content : List UInt8
  deriving DecidableEq

def StoredFields.check (hash : ContentHash) (s : StoredFields) : Except GateError Unit := do
  raiseIf (roleContentIsValid s.binding.artifactRole s.content = false)
    (invalidArtifact (lit "content is invalid for the bound artifact role"))
  raiseIf (verifyArtifactContent hash s.binding.artifact s.content = false)
    (invalidArtifact (lit "content does not match the bound artifact descriptor"))

structure StoredSemanticGateArtifact (hash : ContentHash) extends StoredFields where
  checked : toStoredFields.check hash = .ok ()
  deriving DecidableEq

def StoredFields.accept (hash : ContentHash) (s : StoredFields) :
    Except GateError (StoredSemanticGateArtifact hash) :=
  match h : s.check hash with
  | .ok _ => .ok ⟨s, h⟩
  | .error e => .error e

def expectedSha256 (a : SemanticGateAttempt sha) : ArtifactRole → Except GateError Str
  | .prompt => .ok a.promptArtifactSha256
  | .response => do
    raiseIf (a.status ≠ .succeeded)
      (invalidArtifact (lit "failed Semantic Gate attempt forbids response artifact"))
    demand a.responseArtifactSha256
      (invalidArtifact (lit "succeeded Semantic Gate attempt requires response digest"))

def verifySemanticGateArtifactBinding (hash : ContentHash) (b : SemanticGateArtifactBinding)
    (a : SemanticGateAttempt sha) (content : List UInt8) : Except GateError Bool := do
  let expected ← expectedSha256 a b.artifactRole
  return roleContentIsValid b.artifactRole content && decide (b.attemptId = a.attemptId) &&
    decide (b.artifact.contentSha256 = expected) && verifyArtifactContent hash b.artifact content

def createSemanticGateArtifactBinding (hash : ContentHash) (a : SemanticGateAttempt sha)
    (content : List UInt8) (role : ArtifactRole) (mediaType : Str) (classification : EventClassification)
    (createdAt : CanonicalTime) (redactionPolicyId : Option Str) :
    Except GateError SemanticGateArtifactBinding := do
  let expected ← expectedSha256 a role
  raiseIf (roleContentIsValid role content = false)
    (invalidArtifact (role.text ++ lit " content is invalid or exceeds its limit"))
  let artifact ← createContentAddressedArtifact hash content mediaType classification createdAt
    redactionPolicyId
  let binding ← BindingFields.accept ⟨role, a.attemptId, artifact⟩
  raiseIf (artifact.contentSha256 ≠ expected)
    (invalidArtifact (role.text ++ lit " content digest does not match Semantic Gate attempt"))
  return binding

end Bindings

section Bundles

structure BundleFields (sha : Sha256) (hash : ContentHash) where
  attempt : SemanticGateAttempt sha
  prompt : StoredSemanticGateArtifact hash
  response : Option (StoredSemanticGateArtifact hash)
  deriving DecidableEq

def BundleFields.matchesAttempt (b : BundleFields sha hash) (s : StoredSemanticGateArtifact hash) :
    Except GateError Bool :=
  verifySemanticGateArtifactBinding hash s.binding b.attempt s.content

def BundleFields.checkResponse (b : BundleFields sha hash) : Except GateError Unit :=
  match b.attempt.status, b.response with
  | .succeeded, none =>
    .error (invalidArtifact (lit "succeeded attempt requires its exact response artifact"))
  | .succeeded, some response => do
    let ok ← b.matchesAttempt response
    raiseIf (ok = false)
      (invalidArtifact (lit "succeeded attempt requires its exact response artifact"))
  | .failed, some _ => .error (invalidArtifact (lit "failed attempt forbids a response artifact"))
  | .failed, none => .ok ()

def BundleFields.check (b : BundleFields sha hash) : Except GateError Unit := do
  let ok ← b.matchesAttempt b.prompt
  raiseIf (ok = false) (invalidArtifact (lit "prompt does not match Semantic Gate attempt"))
  b.checkResponse

structure StoredSemanticGateAttemptArtifacts (sha : Sha256) (hash : ContentHash) extends
    BundleFields sha hash where
  checked : toBundleFields.check = .ok ()
  deriving DecidableEq

def BundleFields.accept (b : BundleFields sha hash) :
    Except GateError (StoredSemanticGateAttemptArtifacts sha hash) :=
  match h : b.check with
  | .ok _ => .ok ⟨b, h⟩
  | .error e => .error e

end Bundles

end SemanticGate

end TraceBackedMemory
