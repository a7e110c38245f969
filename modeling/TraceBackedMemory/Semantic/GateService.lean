import TraceBackedMemory.Semantic.ArtifactStore

namespace TraceBackedMemory

open Text Raising Replay

namespace SemanticGate

variable {sha : Sha256} {hash : ContentHash}

section Requests

structure ServiceError where
  code : Str
  message : Str
  deriving DecidableEq

def serviceError (code message : String) : ServiceError :=
  ⟨lit ("TBM_SEMANTIC_SERVICE_" ++ code), lit message⟩

def isIdentifier (value : Str) : Bool :=
  !isBlank value && decide (value.length ≤ 128) && (encodedBytes value).isSome

def identifiers (values : List Str) (e : ServiceError) : Except ServiceError Unit :=
  raiseIf (∃ value ∈ values, isIdentifier value = false) e

def invalidConfiguration : ServiceError :=
  serviceError "CONFIGURATION_INVALID" "semantic gate service configuration is invalid"

def invalidRequest : ServiceError :=
  serviceError "REQUEST_INVALID" "semantic gate invocation request is invalid"

def resultInvalid : ServiceError :=
  serviceError "PROVIDER_RESULT_INVALID" "semantic provider returned an invalid result"

structure AuthenticatedSemanticProviderContext where
  providerId : Str
  authenticatorId : Str
  credentialId : Str
  deriving DecidableEq

structure TrustedSemanticProvider extends AuthenticatedSemanticProviderContext where
  modelId : Str
  modelVersion : Str
  endpointId : Str
  deriving DecidableEq

structure ConfigurationFields where
  promptTemplateId : Str
  promptTemplateVersion : Str
  generationConfigSha256 : Str
  responseMediaType : Str
  classification : EventClassification
  redactionPolicyId : Option Str
  deriving DecidableEq

def ConfigurationFields.check (c : ConfigurationFields) : Except ServiceError Unit := do
  identifiers [c.promptTemplateId, c.promptTemplateVersion] invalidConfiguration
  raiseIf (validDigest c.generationConfigSha256 = false) invalidConfiguration
  identifiers [c.responseMediaType] invalidConfiguration
  raiseIf (c.classification ∉ [EventClassification.publicly, .internal])
    (serviceError "ENCRYPTION_REQUIRED"
      "the configured artifact authority cannot retain sensitive bytes")
  identifiers c.redactionPolicyId.toList invalidConfiguration

structure SemanticGateServiceConfiguration extends ConfigurationFields where
  checked : toConfigurationFields.check = .ok ()
  deriving DecidableEq

structure RequestFields where
  systemGateEvaluationId : Str
  prompt : List UInt8
  expectedPreviousAttemptId : Option Str
  deriving DecidableEq

def RequestFields.check (r : RequestFields) : Except ServiceError Unit := do
  raiseIf (isSystemGateId r.systemGateEvaluationId = false ∨ r.prompt = [] ∨
      promptMaxBytes < r.prompt.length) invalidRequest
  raiseIf ((promptChars? r.prompt).any (fun n => decide (n ≤ promptMaxChars)) = false) invalidRequest
  raiseIf (∃ id, r.expectedPreviousAttemptId = some id ∧ isAttemptId id = false) invalidRequest

structure SemanticGateInvocationRequest extends RequestFields where
  checked : toRequestFields.check = .ok ()
  deriving DecidableEq

structure ProviderResultFields where
  response : List UInt8
  providerRequestId : Str
  decisionId : Str
  finalAllowedRevisionIds : List Str
  finalBlockedRevisionIds : List Str
  reason : Str
  risk : SemanticRisk
  recommendedInjection : RecommendedInjection
  inputTokens : Option Nat
  outputTokens : Option Nat
  deriving DecidableEq

def ProviderResultFields.check (r : ProviderResultFields) : Except ServiceError Unit := do
  raiseIf (r.response = [] ∨ responseMaxBytes < r.response.length) resultInvalid
  identifiers [r.providerRequestId, r.decisionId] resultInvalid
  raiseIf (maxDecisions < r.finalAllowedRevisionIds.length ∨ maxDecisions < r.finalBlockedRevisionIds.length ∨
      (∃ id ∈ r.finalAllowedRevisionIds ++ r.finalBlockedRevisionIds, isRevisionId id = false) ∨
      isBlank r.reason = true ∨ 4096 < r.reason.length ∨
      ¬r.finalAllowedRevisionIds.Nodup ∨ sortedStrs r.finalAllowedRevisionIds ≠ r.finalAllowedRevisionIds ∨
      ¬r.finalBlockedRevisionIds.Nodup ∨ sortedStrs r.finalBlockedRevisionIds ≠ r.finalBlockedRevisionIds ∨
      ∃ id ∈ r.finalAllowedRevisionIds, id ∈ r.finalBlockedRevisionIds) resultInvalid
  raiseIf (encodedBytes r.reason = none) resultInvalid
  raiseIf (∃ n ∈ r.inputTokens.toList ++ r.outputTokens.toList, maxInteger < n) resultInvalid

structure SemanticProviderResult extends ProviderResultFields where
  checked : toProviderResultFields.check = .ok ()
  deriving DecidableEq

inductive ProviderErrorCode where
  | authenticationFailed | contentRejected | error | rateLimited | responseInvalid | timeout | unavailable
  deriving DecidableEq

def ProviderErrorCode.text : ProviderErrorCode → Str
  | .authenticationFailed => lit "provider_authentication_failed"
  | .contentRejected => lit "provider_content_rejected"
  | .error => lit "provider_error"
  | .rateLimited => lit "provider_rate_limited"
  | .responseInvalid => lit "provider_response_invalid"
  | .timeout => lit "provider_timeout"
  | .unavailable => lit "provider_unavailable"

structure SemanticProviderCallError where
  errorCode : ProviderErrorCode
  providerRequestId : Option Str
  inputTokens : Option Nat
  outputTokens : Option Nat
  deriving DecidableEq

-- What the provider callback does: it returns a result, fails, or asks for effect recovery.
inductive ProviderReturn where
  | result (r : SemanticProviderResult)
  | failure (f : SemanticProviderCallError)
  | recoveryRequired (effectId : Str)
  deriving DecidableEq

-- elapsedMs is what the clock's float arithmetic makes of finishedAt - startedAt.
structure SemanticGateInvocation where
  provider : TrustedSemanticProvider
  configuration : SemanticGateServiceConfiguration
  context : AuthenticatedSemanticProviderContext
  request : SemanticGateInvocationRequest
  startedAt : CanonicalTime
  finishedAt : CanonicalTime
  elapsedMs : Int
  returned : ProviderReturn
  deriving DecidableEq

end Requests

section Reading

def chainReadFailed : ServiceError :=
  serviceError "CHAIN_READ_FAILED" "semantic gate attempt chain could not be read"

def evidenceInvalid : ServiceError :=
  serviceError "EVIDENCE_INVALID" "semantic gate evidence is missing or invalid"

def orServiceError {ε α : Type} (x : Except ε α) (e : ServiceError) : Except ServiceError α :=
  match x with
  | .ok a => .ok a
  | .error _ => .error e

structure VerifiedState (sha : Sha256) where
  evaluation : SystemGateEvaluation sha
  snapshot : RetrievalSnapshot
  chain : List (SemanticGateAttempt sha)
  deriving DecidableEq

def verifyLoadedChain (chain : List (SemanticGateAttempt sha)) (e : SystemGateEvaluation sha)
    (snapshot : RetrievalSnapshot) : Except ServiceError Unit :=
  if chain = [] then .ok ()
  else orServiceError (verifySemanticGateAttemptChain chain e snapshot)
    (serviceError "CHAIN_READ_FAILED" "semantic gate authority returned an invalid attempt chain")

def loadVerifiedState (db : ArtifactDb sha) (call : SemanticGateInvocation) :
    Except ServiceError (VerifiedState sha) := do
  raiseIf (call.context ≠ call.provider.toAuthenticatedSemanticProviderContext)
    (serviceError "AUTHENTICATION_FAILED" "semantic provider authentication failed")
  let records ← orServiceError (loadGateRecords db call.request.systemGateEvaluationId) evidenceInvalid
  raiseIf (records.1.evaluationId ≠ call.request.systemGateEvaluationId) evidenceInvalid
  let chain ← orServiceError (loadAttemptChain db records.1.evaluationId) chainReadFailed
  verifyLoadedChain chain records.1 records.2
  return ⟨records.1, records.2, chain⟩

def artifactPolicyDiffers (a : ContentAddressedArtifact) (mediaType : Str)
    (c : SemanticGateServiceConfiguration) : Prop :=
  a.mediaType ≠ mediaType ∨ a.classification ≠ c.classification ∨ a.encryptionKeyId ≠ none ∨
    a.redactionPolicyId ≠ c.redactionPolicyId

instance decidableArtifactPolicyDiffers (a : ContentAddressedArtifact) (mediaType : Str)
    (c : SemanticGateServiceConfiguration) : Decidable (artifactPolicyDiffers a mediaType c) :=
  inferInstanceAs (Decidable (_ ∨ _))

def roleArtifact (b : BundleFields sha hash) : ArtifactRole → Option (StoredSemanticGateArtifact hash)
  | .prompt => some b.prompt
  | .response => b.response

def retainedCreatedAt (call : SemanticGateInvocation) (mediaType : Str)
    (s : StoredSemanticGateArtifact hash) : Except ServiceError CanonicalTime := do
  raiseIf (artifactPolicyDiffers s.binding.artifact mediaType call.configuration)
    (serviceError "ARTIFACT_CONFLICT" "semantic gate artifact policy conflicts with retained bytes")
  return s.binding.artifact.createdAt

-- The attempts are walked from the latest one back.
def existingArtifactCreatedAt (hash : ContentHash) (db : ArtifactDb sha) (call : SemanticGateInvocation)
    (role : ArtifactRole) (content : List UInt8) (mediaType : Str) (defaultCreatedAt : CanonicalTime) :
    List (SemanticGateAttempt sha) → Except ServiceError CanonicalTime
  | [] => .ok defaultCreatedAt
  | a :: earlier => do
    let retained ← orServiceError (loadAttemptWithArtifacts hash db a.attemptId) chainReadFailed
    raiseIf (retained.attempt ≠ a)
      (serviceError "CHAIN_READ_FAILED" "semantic gate authority returned an invalid attempt chain")
    match (roleArtifact retained.toBundleFields role).filter (fun s => decide (s.content = content)) with
    | none => existingArtifactCreatedAt hash db call role content mediaType defaultCreatedAt earlier
    | some s => retainedCreatedAt call mediaType s

end Reading

section Persisting

structure ResponseContent where
  content : List UInt8
  createdAt : CanonicalTime
  deriving DecidableEq

def responseContent (hash : ContentHash) (db : ArtifactDb sha) (call : SemanticGateInvocation)
    (chain : List (SemanticGateAttempt sha)) : Except ServiceError (Option ResponseContent) :=
  match call.returned with
  | .result r => do
    let createdAt ← existingArtifactCreatedAt hash db call .response r.response
      call.configuration.responseMediaType call.finishedAt chain.reverse
    return some ⟨r.response, createdAt⟩
  | _ => .ok none

def outcomeFields (call : SemanticGateInvocation) (c : AttemptContent) : AttemptContent :=
  match call.returned with
  | .result r =>
    { c with
      providerRequestId := some r.providerRequestId
      status := .succeeded
      decisionId := some r.decisionId
      finalAllowedRevisionIds := r.finalAllowedRevisionIds
      finalBlockedRevisionIds := r.finalBlockedRevisionIds
      reason := some r.reason
      risk := some r.risk
      recommendedInjection := some r.recommendedInjection
      inputTokens := r.inputTokens
      outputTokens := r.outputTokens }
  | .failure f =>
    { c with
      providerRequestId := f.providerRequestId
      errorCode := some f.errorCode.text
      inputTokens := f.inputTokens
      outputTokens := f.outputTokens }
  | .recoveryRequired _ => c

def attemptContent (call : SemanticGateInvocation) (state : VerifiedState sha)
    (promptSha256 : Str) (responseSha256 : Option Str) : AttemptContent :=
  outcomeFields call {
    sessionId := state.evaluation.sessionId
    retrievalSnapshotId := state.evaluation.retrievalSnapshotId
    systemGateEvaluationId := state.evaluation.evaluationId
    sequence := state.chain.length + 1
    previousAttemptId := state.chain.getLast?.map SemanticGateAttempt.attemptId
    providerId := call.provider.providerId
    modelId := call.provider.modelId
    modelVersion := call.provider.modelVersion
    endpointId := some call.provider.endpointId
    promptTemplateId := call.configuration.promptTemplateId
    promptTemplateVersion := call.configuration.promptTemplateVersion
    promptArtifactSha256 := promptSha256
    responseArtifactSha256 := responseSha256
    generationConfigSha256 := call.configuration.generationConfigSha256
    providerRequestId := none
    status := .failed
    decisionId := none
    finalAllowedRevisionIds := []
    finalBlockedRevisionIds := []
    reason := none
    risk := none
    recommendedInjection := none
    errorCode := none
    inputTokens := none
    outputTokens := none
    latencyMs := call.elapsedMs.toNat
    startedAt := call.startedAt
    finishedAt := call.finishedAt }

def storedArtifact (hash : ContentHash) (call : SemanticGateInvocation) (a : SemanticGateAttempt sha)
    (content : List UInt8) (role : ArtifactRole) (mediaType : Str) (createdAt : CanonicalTime) :
    Except GateError (StoredSemanticGateArtifact hash) := do
  let binding ← createSemanticGateArtifactBinding hash a content role mediaType
    call.configuration.classification createdAt call.configuration.redactionPolicyId
  StoredFields.accept hash ⟨binding, content⟩

def storedResponse (hash : ContentHash) (call : SemanticGateInvocation) (a : SemanticGateAttempt sha) :
    Option ResponseContent → Except GateError (Option (StoredSemanticGateArtifact hash))
  | none => .ok none
  | some r => do
    let stored ← storedArtifact hash call a r.content .response call.configuration.responseMediaType
      r.createdAt
    return some stored

def responseDigest (hash : ContentHash) (call : SemanticGateInvocation) :
    Option ResponseContent → Except GateError (Option Str)
  | none => .ok none
  | some r => do
    let descriptor ← createContentAddressedArtifact hash r.content call.configuration.responseMediaType
      call.configuration.classification r.createdAt call.configuration.redactionPolicyId
    return some descriptor.contentSha256

def buildBundle (hash : ContentHash) (call : SemanticGateInvocation) (state : VerifiedState sha)
    (promptCreatedAt : CanonicalTime) (response : Option ResponseContent) :
    Except GateError (StoredSemanticGateAttemptArtifacts sha hash) := do
  let promptDescriptor ← createContentAddressedArtifact hash call.request.prompt promptMediaType
    call.configuration.classification promptCreatedAt call.configuration.redactionPolicyId
  let responseSha256 ← responseDigest hash call response
  let a ← buildSemanticGateAttempt sha
    (attemptContent call state promptDescriptor.contentSha256 responseSha256)
  verifySemanticGateAttempt a state.evaluation state.snapshot
  verifySemanticGateAttemptParent a state.chain.getLast?
  let prompt ← storedArtifact hash call a call.request.prompt .prompt promptMediaType promptCreatedAt
  let response ← storedResponse hash call a response
  BundleFields.accept ⟨a, prompt, response⟩

-- An attempt is stored and read back; a failed store leaves the tables as they were.
def persist (hash : ContentHash) (db : ArtifactDb sha) (call : SemanticGateInvocation)
    (state : VerifiedState sha) :
    Except ServiceError (StoredSemanticGateAttemptArtifacts sha hash × ArtifactDb sha) := do
  let promptCreatedAt ← existingArtifactCreatedAt hash db call .prompt call.request.prompt
    promptMediaType call.startedAt state.chain.reverse
  let response ← responseContent hash db call state.chain
  let bundle ← orServiceError (buildBundle hash call state promptCreatedAt response) resultInvalid
  let stored ← orServiceError (storeAttemptWithArtifacts db bundle.toBundleFields)
    (serviceError "PERSISTENCE_FAILED" "semantic gate attempt could not be durably retained")
  let retained ← orServiceError (loadAttemptWithArtifacts hash stored bundle.attempt.attemptId)
    (serviceError "PERSISTENCE_FAILED" "semantic gate attempt could not be durably retained")
  raiseIf (retained ≠ bundle)
    (serviceError "RECEIPT_INVALID" "semantic gate authority returned an invalid read-back receipt")
  return (retained, stored)

def maxLatencyMs : Int := 2147483647

def verifyLatency (call : SemanticGateInvocation) : Except ServiceError Unit :=
  raiseIf (call.elapsedMs < 0 ∨ maxLatencyMs < call.elapsedMs)
    (serviceError "CLOCK_INVALID" "trusted semantic gate clock moved outside the latency bound")

def verifyReturned (call : SemanticGateInvocation) : Except ServiceError Unit :=
  match call.returned with
  | .recoveryRequired _ =>
    .error ⟨lit "TBM_SEMANTIC_PROVIDER_EFFECT_RECOVERY_REQUIRED",
      lit "semantic provider effect requires reconciliation before retry"⟩
  | _ => .ok ()

-- A failed provider call is retained first and raised after; its bundle is the value here.
def invoke (hash : ContentHash) (db : ArtifactDb sha) (call : SemanticGateInvocation) :
    Except ServiceError (StoredSemanticGateAttemptArtifacts sha hash × ArtifactDb sha) := do
  let state ← loadVerifiedState db call
  raiseIf (call.request.expectedPreviousAttemptId ≠
      state.chain.getLast?.map SemanticGateAttempt.attemptId)
    (serviceError "CHAIN_CHANGED" "semantic gate attempt chain does not match the expected parent")
  raiseIf (maxDecisions < state.chain.length + 1)
    (serviceError "CHAIN_FULL" "semantic gate attempt chain reached its sequence limit")
  verifyReturned call
  verifyLatency call
  persist hash db call state

end Persisting

end SemanticGate

end TraceBackedMemory
