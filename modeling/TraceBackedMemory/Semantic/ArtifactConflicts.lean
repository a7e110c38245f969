import TraceBackedMemory.Semantic.ArtifactTables
import TraceBackedMemory.Semantic.ChainProjection

namespace TraceBackedMemory

open Text Raising Replay

namespace SemanticGate

variable {sha : Sha256} {hash : ContentHash} {db db' : ArtifactDb sha} {b : BundleFields sha hash}
  {a : SemanticGateAttempt sha} {e : SystemGateEvaluation sha} {snapshot : RetrievalSnapshot}

section Invoking

variable {call : SemanticGateInvocation} {state : VerifiedState sha}
  {bundle : StoredSemanticGateAttemptArtifacts sha hash}

theorem taggedHex_contentId {tag : String} {fields : List (Str × Json)} :
    taggedHex tag (contentId sha tag fields) = true := by
  have hdrop : (contentId sha tag fields).drop (lit tag).length = sha.hexdigest [] (.obj fields) :=
    List.drop_left
  simp only [taggedHex, Bool.and_eq_true, decide_eq_true_eq, hdrop]
  refine ⟨⟨?_, ?_⟩, sha.hex_hexdigest _ _⟩
  · rw [contentId, List.length_append, sha.length_hexdigest]
  · rw [List.isPrefixOf_iff_prefix]
    exact List.prefix_append _ _

def ownResponse (call : SemanticGateInvocation) : Option ResponseContent :=
  match call.returned with
  | .result r => some ⟨r.response, call.finishedAt⟩
  | _ => none

-- An invocation of an evaluation with no attempt yet, whose attempt and artifacts can be built.
-- SHA-256 gives no other attempt the id of the new one.
structure Ready (hash : ContentHash) (db : ArtifactDb sha) (call : SemanticGateInvocation)
    (state : VerifiedState sha) (bundle : StoredSemanticGateAttemptArtifacts sha hash) : Prop where
  loaded : loadVerifiedState db call = .ok state
  empty : state.chain = []
  first : call.request.expectedPreviousAttemptId = none
  returned : verifyReturned call = .ok ()
  latency : verifyLatency call = .ok ()
  built : buildBundle hash call state call.startedAt (ownResponse call) = .ok bundle
  fits : rowFits bundle.attempt = true
  fresh : ∀ a, db.attempts.get? bundle.attempt.attemptId = some a → a = bundle.attempt

theorem headless_of_empty {records : SystemGateEvaluation sha × RetrievalSnapshot}
    (hrecords : loadGateRecords db records.1.evaluationId = .ok records)
    (h : loadAttemptChain db records.1.evaluationId = .ok []) :
    db.heads.get? records.1.evaluationId = none := by
  simp only [loadAttemptChain, hrecords, bind_eq_ok, exists_unit, retainedChainOf] at h
  obtain ⟨-, h⟩ := h
  split at h
  · rename_i hnone
    exact hnone
  · simp only [loadChain, bind_eq_ok, exists_unit, raiseIf_eq_ok, pure_eq_ok, not_or, ne_eq, not_not,
      not_lt] at h
    obtain ⟨⟨-, -, hone, -⟩, ⟨hlength, -⟩, -, hempty⟩ := h
    rw [hempty, List.length_nil] at hlength
    omega

theorem Ready.firstOf (h : Ready hash db call state bundle) (hsound : SoundTables db) :
    FirstOf db bundle.attempt state.evaluation state.snapshot := by
  have hbuilt := builtBundle_of_ok h.built
  have hparent := hbuilt.parent
  rw [h.empty] at hparent
  have hloaded := h.loaded
  simp only [loadVerifiedState, loadGateRecords, bind_eq_ok, exists_unit, raiseIf_eq_ok, demand_eq_ok,
    orServiceError_eq_ok, orStoreError_eq_ok, pure_eq_ok, ne_eq, not_not] at hloaded
  obtain ⟨-, _, ⟨records, hevidence, hverified, rfl⟩, hid, chain, hchain, -, rfl⟩ := hloaded
  have hevaluation : bundle.attempt.systemGateEvaluationId = records.1.evaluationId := by
    have hattempt := hbuilt.verified
    simp only [verifySemanticGateAttempt, bind_eq_ok, exists_unit, raiseIf_eq_ok, ne_eq, not_not]
      at hattempt
    exact hattempt.2.2.2.1
  have hheadless : db.heads.get? records.1.evaluationId = none := by
    obtain rfl : chain = [] := h.empty
    refine headless_of_empty ?_ hchain
    simp only [loadGateRecords, bind_eq_ok, exists_unit, demand_eq_ok, orStoreError_eq_ok, pure_eq_ok]
    exact ⟨_, hid ▸ hevidence, hverified, rfl⟩
  refine ⟨?_, hbuilt.verified, hparent, ?_, h.fits, ?_⟩
  · rw [hevaluation, hid]
    exact hevidence
  · rw [hevaluation]
    exact hheadless
  · cases hget : db.attempts.get? bundle.attempt.attemptId with
    | none => rfl
    | some a =>
      have hheaded := hsound.headed _ a hget
      rw [h.fresh a hget, hevaluation, Dict.contains, hheadless] at hheaded
      cases hheaded

theorem verified_of_matches {s : StoredSemanticGateArtifact hash} {ok : Bool}
    (h : b.matchesAttempt s = .ok ok) (hok : ¬ok = false) :
    verifySemanticGateArtifactBinding hash s.binding b.attempt s.content = .ok true := by
  rw [Bool.not_eq_false] at hok
  rw [← hok]
  exact h

theorem validateStored_of_described {role : ArtifactRole} {content : List UInt8} {mediaType : Str}
    {createdAt : CanonicalTime} {s : StoredSemanticGateArtifact hash}
    (hs : Described call a role content mediaType createdAt s)
    (hverified : verifySemanticGateArtifactBinding hash s.binding a s.content = .ok true) :
    validateStored a s role = .ok () := by
  have hclassification : s.binding.artifact.classification ∈ [EventClassification.publicly, .internal] := by
    have hconfiguration := call.configuration.checked
    simp only [ConfigurationFields.check, bind_eq_ok, exists_unit, raiseIf_eq_ok, not_not]
      at hconfiguration
    rw [hs.artifact]
    exact hconfiguration.2.2.2.1
  simp only [validateStored, bind_eq_ok, exists_unit, raiseIf_eq_ok, orStoreError_eq_ok]
  exact ⟨not_not.mpr hs.role_eq, not_not.mpr hclassification, true, hverified, Bool.noConfusion⟩

theorem storedResponse_some {s : StoredSemanticGateArtifact hash}
    (h : storedResponse hash call a (ownResponse call) = .ok (some s)) :
    ∃ r, call.returned = .result r ∧
      Described call a .response r.response call.configuration.responseMediaType call.finishedAt s := by
  unfold ownResponse at h
  split at h
  · rename_i r hreturned
    simp only [storedResponse, bind_eq_ok, pure_eq_ok] at h
    obtain ⟨stored, hstored, heq⟩ := h
    obtain rfl := Option.some.inj heq
    exact ⟨r, hreturned, described_of_ok hstored⟩
  · cases h

theorem storedResponse_result {r : SemanticProviderResult}
    {response : Option (StoredSemanticGateArtifact hash)} (hr : call.returned = .result r)
    (h : storedResponse hash call a (ownResponse call) = .ok response) :
    ∃ s, response = some s := by
  simp only [ownResponse, hr, storedResponse, bind_eq_ok, pure_eq_ok] at h
  obtain ⟨stored, -, rfl⟩ := h
  exact ⟨stored, rfl⟩

theorem Ready.storable (h : Ready hash db call state bundle) : Storable bundle.toBundleFields := by
  have hbuilt := builtBundle_of_ok h.built
  have hchecked := bundle.checked
  simp only [BundleFields.check, bind_eq_ok, exists_unit, raiseIf_eq_ok] at hchecked
  obtain ⟨ok, hmatches, hok, hresponse⟩ := hchecked
  refine ⟨validateStored_of_described hbuilt.prompt (verified_of_matches hmatches hok), ?_⟩
  have hstored := hbuilt.response
  cases hstatus : bundle.attempt.status with
  | succeeded =>
    cases hs : bundle.response with
    | none =>
      simp only [BundleFields.checkResponse, hstatus, hs] at hresponse
      cases hresponse
    | some s =>
      simp only [BundleFields.checkResponse, hstatus, hs, bind_eq_ok, raiseIf_eq_ok] at hresponse
      obtain ⟨ok', hmatches', hok'⟩ := hresponse
      rw [hs] at hstored
      obtain ⟨r, -, hdescribed⟩ := storedResponse_some hstored
      simp only [validateResponse, hstatus]
      exact validateStored_of_described hdescribed (verified_of_matches hmatches' hok')
  | failed =>
    cases hs : bundle.response with
    | none => simp only [validateResponse, hstatus]
    | some s =>
      simp only [BundleFields.checkResponse, hstatus, hs] at hresponse
      cases hresponse

-- A retained row carries the very description that the invocation gives the same bytes.
structure Agrees (hash : ContentHash) (db : ArtifactDb sha) (call : SemanticGateInvocation)
    (content : List UInt8) (mediaType : Str) (createdAt : CanonicalTime) : Prop where
  row : ∀ row, db.artifacts.get? (artifactIdFromSha256 (hash.digest content)) = some row →
    row.content = content ∧
      row.artifact.toArtifactFields = descriptor hash call content mediaType createdAt

-- Two byte strings of one invocation with one artifact id are one artifact.
def OneArtifact (hash : ContentHash) (call : SemanticGateInvocation) (response : List UInt8) : Prop :=
  artifactIdFromSha256 (hash.digest response) = artifactIdFromSha256 (hash.digest call.request.prompt) →
    response = call.request.prompt ∧ call.configuration.responseMediaType = promptMediaType ∧
      call.finishedAt = call.startedAt

structure Compatible (hash : ContentHash) (db : ArtifactDb sha) (call : SemanticGateInvocation) :
    Prop where
  prompt : Agrees hash db call call.request.prompt promptMediaType call.startedAt
  response : ∀ r, call.returned = .result r →
    Agrees hash db call r.response call.configuration.responseMediaType call.finishedAt ∧
      OneArtifact hash call r.response

theorem artifact_ext {x y : ContentAddressedArtifact} (h : x.toArtifactFields = y.toArtifactFields) :
    x = y := by
  obtain ⟨fields, hchecked⟩ := x
  obtain ⟨fields', hchecked'⟩ := y
  cases h
  rfl

theorem row_eq_iff {role : ArtifactRole} {content : List UInt8} {mediaType : Str}
    {createdAt : CanonicalTime} {s : StoredSemanticGateArtifact hash} {row : ArtifactRow}
    (hs : Described call a role content mediaType createdAt s) :
    row = s.row ↔ row.content = content ∧
      row.artifact.toArtifactFields = descriptor hash call content mediaType createdAt := by
  rw [← hs.artifact, ← hs.content_eq]
  constructor
  · rintro rfl
    exact ⟨rfl, rfl⟩
  · rintro ⟨hcontent, hartifact⟩
    obtain ⟨artifact, bytes⟩ := row
    obtain rfl : bytes = s.content := hcontent
    obtain rfl := artifact_ext hartifact
    rfl

theorem Described.artifactId {role : ArtifactRole} {content : List UInt8} {mediaType : Str}
    {createdAt : CanonicalTime} {s : StoredSemanticGateArtifact hash}
    (hs : Described call a role content mediaType createdAt s) :
    s.binding.artifact.artifactId = artifactIdFromSha256 (hash.digest content) := by
  rw [ArtifactFields.artifactId, hs.artifact]
  rfl

theorem agrees_iff {role : ArtifactRole} {content : List UInt8} {mediaType : Str}
    {createdAt : CanonicalTime} {s : StoredSemanticGateArtifact hash}
    (hs : Described call a role content mediaType createdAt s) :
    (∀ row, db.artifacts.get? s.binding.artifact.artifactId = some row → row = s.row) ↔
      Agrees hash db call content mediaType createdAt := by
  rw [hs.artifactId]
  constructor
  · intro h
    exact ⟨fun row hrow => (row_eq_iff hs).mp (h row hrow)⟩
  · intro h row hrow
    exact (row_eq_iff hs).mpr (h.row row hrow)

theorem oneArtifact_iff {r : SemanticProviderResult} {prompt s : StoredSemanticGateArtifact hash}
    (hprompt : Described call a .prompt call.request.prompt promptMediaType call.startedAt prompt)
    (hs : Described call a .response r.response call.configuration.responseMediaType call.finishedAt s) :
    (s.binding.artifact.artifactId = prompt.binding.artifact.artifactId → s.row = prompt.row) ↔
      OneArtifact hash call r.response := by
  rw [hs.artifactId, hprompt.artifactId]
  refine imp_congr_right ?_
  intro _
  rw [row_eq_iff hprompt]
  show s.content = _ ∧ s.binding.artifact.toArtifactFields = _ ↔ _
  rw [hs.content_eq, hs.artifact]
  refine and_congr_right ?_
  intro hcontent
  rw [hcontent, descriptor, descriptor]
  simp

theorem Ready.unclashing_iff (h : Ready hash db call state bundle) :
    Unclashing db bundle.toBundleFields ↔ Compatible hash db call := by
  have hbuilt := builtBundle_of_ok h.built
  have hresponse := hbuilt.response
  constructor
  · intro hclash
    refine ⟨(agrees_iff hbuilt.prompt).mp hclash.prompt, ?_⟩
    intro r hr
    obtain ⟨s, hs⟩ := storedResponse_result hr hresponse
    rw [hs] at hresponse
    obtain ⟨r', hr', hdescribed⟩ := storedResponse_some hresponse
    rw [hr] at hr'
    cases hr'
    obtain ⟨hrows, hsame⟩ := hclash.response s hs
    exact ⟨(agrees_iff hdescribed).mp hrows, (oneArtifact_iff hbuilt.prompt hdescribed).mp hsame⟩
  · intro hcompatible
    refine ⟨(agrees_iff hbuilt.prompt).mpr hcompatible.prompt, ?_⟩
    intro s hs
    rw [hs] at hresponse
    obtain ⟨r, hr, hdescribed⟩ := storedResponse_some hresponse
    obtain ⟨hrows, hsame⟩ := hcompatible.response r hr
    exact ⟨(agrees_iff hdescribed).mpr hrows, (oneArtifact_iff hbuilt.prompt hdescribed).mpr hsame⟩

theorem Ready.isAttemptId (h : Ready hash db call state bundle) :
    SemanticGate.isAttemptId bundle.attempt.attemptId = true := by
  rw [bundle.attempt.identified]
  exact taggedHex_contentId

theorem Ready.invoke_iff (h : Ready hash db call state bundle)
    {out : StoredSemanticGateAttemptArtifacts sha hash × ArtifactDb sha} :
    invoke hash db call = .ok out ↔ persist hash db call state = .ok out := by
  simp only [invoke, h.loaded, h.returned, h.latency, bind_eq_ok, exists_unit, raiseIf_eq_ok]
  constructor
  · rintro ⟨_, heq, -, -, -, -, hout⟩
    rw [Except.ok.inj heq]
    exact hout
  · intro hout
    refine ⟨state, rfl, ?_, ?_, trivial, trivial, hout⟩
    · rw [h.empty, h.first]
      exact not_not.mpr rfl
    · rw [h.empty, List.length_nil]
      decide

-- With no earlier attempt of the evaluation, no time is taken from a retained one.
theorem Ready.responseContent_eq (h : Ready hash db call state bundle) :
    responseContent hash db call state.chain = .ok (ownResponse call) := by
  rw [h.empty]
  cases hr : call.returned with
  | result r =>
    simp only [responseContent, ownResponse, hr]
    rfl
  | failure f => simp only [responseContent, ownResponse, hr]
  | recoveryRequired effectId => simp only [responseContent, ownResponse, hr]

theorem Ready.persist_iff (h : Ready hash db call state bundle) (hsound : SoundTables db) :
    persist hash db call state = .ok (bundle, db') ↔
      storeAttemptWithArtifacts db bundle.toBundleFields = .ok db' := by
  simp only [persist, h.responseContent_eq, bind_eq_ok, exists_unit, orServiceError_eq_ok,
    raiseIf_eq_ok, pure_eq_ok]
  rw [h.empty]
  constructor
  · rintro ⟨_, hcreated, _, hown, built, hbuilt, stored, hstored, retained, -, hsame, hout⟩
    cases hcreated
    cases hown
    obtain rfl := Except.ok.inj (h.built.symm.trans hbuilt)
    cases hout
    exact hstored
  · intro hstored
    have hfirst := h.firstOf hsound
    have hloaded := loadBundle_of_store hfirst hsound h.storable h.isAttemptId hstored
    exact ⟨_, rfl, _, rfl, _, h.built, _, hstored, _, hloaded, not_not.mpr rfl, rfl⟩

theorem Ready.stored_iff (h : Ready hash db call state bundle) (hsound : SoundTables db) :
    (∃ db', invoke hash db call = .ok (bundle, db')) ↔ Compatible hash db call := by
  rw [← h.unclashing_iff, ← storeWithArtifacts_iff (h.firstOf hsound) hsound h.storable]
  refine exists_congr ?_
  intro db'
  rw [h.invoke_iff, h.persist_iff hsound]

theorem Ready.store_of_invoke (h : Ready hash db call state bundle) (hsound : SoundTables db)
    (hinvoke : invoke hash db call = .ok (bundle, db')) :
    storeAttemptWithArtifacts db bundle.toBundleFields = .ok db' :=
  (h.persist_iff hsound).mp (h.invoke_iff.mp hinvoke)

theorem Ready.readsBack (h : Ready hash db call state bundle) (hsound : SoundTables db)
    (hinvoke : invoke hash db call = .ok (bundle, db')) :
    ReadsBack (appendedDb db bundle.attempt state.evaluation state.snapshot) db' bundle.toBundleFields := by
  have hfirst := h.firstOf hsound
  obtain ⟨-, appended, prompted, happended, hprompted, hresponse⟩ :=
    storedBundle_of_ok (h.store_of_invoke hsound hinvoke)
  obtain rfl := Except.ok.inj ((hfirst.storeAttempt_eq hsound).symm.trans happended)
  exact readsBack_of_puts hfirst hsound h.storable hprompted hresponse

theorem Ready.evaluationId (h : Ready hash db call state bundle) :
    bundle.attempt.systemGateEvaluationId = call.request.systemGateEvaluationId := by
  have hloaded := h.loaded
  simp only [loadVerifiedState, bind_eq_ok, exists_unit, raiseIf_eq_ok, pure_eq_ok, ne_eq, not_not]
    at hloaded
  obtain ⟨-, records, -, hid, chain, -, -, rfl⟩ := hloaded
  have hattempt := (builtBundle_of_ok h.built).verified
  simp only [verifySemanticGateAttempt, bind_eq_ok, exists_unit, raiseIf_eq_ok, ne_eq, not_not]
    at hattempt
  rw [hattempt.2.2.2.1]
  exact hid

-- Only the evidence and its own evaluation's rows decide whether an invocation is ready.
theorem Ready.frame (h : Ready hash db call state bundle) (hevidence : db'.evidence = db.evidence)
    (hheadless : db'.heads.get? call.request.systemGateEvaluationId = none)
    (hfresh : db'.attempts.get? bundle.attempt.attemptId = none) : Ready hash db' call state bundle := by
  have hloaded : loadVerifiedState db' call = .ok state := by
    have hloaded := h.loaded
    have hgate : ∀ id, loadGateRecords db' id = loadGateRecords db id := by
      intro id
      rw [loadGateRecords, loadGateRecords, hevidence]
    simp only [loadVerifiedState, hgate, loadAttemptChain, bind_eq_ok, exists_unit, raiseIf_eq_ok,
      orServiceError_eq_ok, pure_eq_ok, ne_eq, not_not] at hloaded ⊢
    obtain ⟨hcontext, records, hrecords, hid, chain, ⟨hvalid, hchain⟩, hverified, rfl⟩ := hloaded
    obtain rfl : chain = [] := h.empty
    refine ⟨hcontext, records, hrecords, hid, [], ⟨hvalid, ?_⟩, hverified, rfl⟩
    rw [hid, hrecords]
    simp only [retainedChainOf, hid, hheadless]
  refine ⟨hloaded, h.empty, h.first, h.returned, h.latency, h.built, h.fits, ?_⟩
  intro a ha
  rw [hfresh] at ha
  cases ha

variable {call' : SemanticGateInvocation} {state' : VerifiedState sha}
  {bundle' : StoredSemanticGateAttemptArtifacts sha hash}

theorem Ready.after (h : Ready hash db call state bundle) (h' : Ready hash db call' state' bundle')
    (hsound : SoundTables db)
    (hother : call'.request.systemGateEvaluationId ≠ call.request.systemGateEvaluationId)
    (hids : bundle'.attempt.attemptId ≠ bundle.attempt.attemptId)
    (hinvoke : invoke hash db call = .ok (bundle, db')) : Ready hash db' call' state' bundle' := by
  have hread := h.readsBack hsound hinvoke
  have hfirst := h'.firstOf hsound
  refine h'.frame hread.evidence ?_ ?_
  · rw [hread.heads, ← h'.evaluationId]
    refine (Dict.get?_set_of_ne _ _ ?_).trans hfirst.headless
    rw [h'.evaluationId, h.evaluationId]
    exact hother
  · rw [hread.attempts]
    exact (Dict.get?_set_of_ne _ _ hids).trans hfirst.fresh

-- The retained prompt keeps the start of the first session, so a later session with the same
-- prompt is refused.
theorem Ready.refused_after (h : Ready hash db call state bundle)
    (h' : Ready hash db call' state' bundle') (hsound : SoundTables db)
    (hother : call'.request.systemGateEvaluationId ≠ call.request.systemGateEvaluationId)
    (hids : bundle'.attempt.attemptId ≠ bundle.attempt.attemptId)
    (hinvoke : invoke hash db call = .ok (bundle, db'))
    (hprompt : call'.request.prompt = call.request.prompt) (htime : call'.startedAt ≠ call.startedAt) :
    ¬∃ db'', invoke hash db' call' = .ok (bundle', db'') := by
  have hread := h.readsBack hsound hinvoke
  have hready := h.after h' hsound hother hids hinvoke
  have hdescribed := (builtBundle_of_ok h.built).prompt
  rw [hready.stored_iff (hsound.store (h.store_of_invoke hsound hinvoke))]
  intro hcompatible
  have hrow := hread.row
  rw [hdescribed.artifactId, ← hprompt] at hrow
  have hagrees := (hcompatible.prompt.row _ hrow).2
  have hartifact : descriptor hash call call.request.prompt promptMediaType call.startedAt =
      descriptor hash call' call'.request.prompt promptMediaType call'.startedAt := by
    rw [← hagrees, ← hdescribed.artifact]
    rfl
  exact htime (congrArg ArtifactFields.createdAt hartifact).symm

end Invoking

theorem first_attempt_stored_iff (hreached : Reachable hash db) {call : SemanticGateInvocation}
    {state : VerifiedState sha} {bundle : StoredSemanticGateAttemptArtifacts sha hash}
    (hready : Ready hash db call state bundle) :
    (∃ db', invoke hash db call = .ok (bundle, db')) ↔ Compatible hash db call :=
  hready.stored_iff hreached.sound

section Sample

def otherEvaluationContent : EvaluationContent :=
  { sampleEvaluationContent with
    sessionId := lit "session_2"
    retrievalSnapshotId := lit "retrieval_snapshot_sha256_" ++ List.replicate 64 (cp 'f') }

def otherEvaluation : SystemGateEvaluation sampleSha :=
  ⟨otherEvaluationContent, _, by decide, rfl⟩

def otherSnapshot : RetrievalSnapshot :=
  ⟨otherEvaluation.retrievalSnapshotId, otherEvaluation.sessionId, otherEvaluation.authorizationEventId,
    [], sampleTime⟩

theorem canonical_laterTime : canonicalRfc3339 (lit "2024-05-01T12:00:01Z") =
    .ok (lit "2024-05-01T12:00:01Z") := by
  decide +kernel

def laterTime : CanonicalTime :=
  ⟨lit "2024-05-01T12:00:01Z", GateEvents.canonicalText_of_ok canonical_laterTime⟩

def sampleProvider : TrustedSemanticProvider :=
  ⟨⟨lit "provider_1", lit "authenticator_1", lit "credential_1"⟩, lit "model_1", lit "1",
    lit "endpoint_1"⟩

def sampleConfiguration : SemanticGateServiceConfiguration :=
  ⟨⟨lit "template_1", lit "1", sampleDigest 'd', lit "application/json", .internal, none⟩, by decide⟩

theorem sampleRequest_checked (c : EvaluationContent) :
    (RequestFields.mk (systemGateEvaluationId sampleSha c) [104, 105] none).check = .ok () := by
  have hid : isSystemGateId (systemGateEvaluationId sampleSha c) = true := taggedHex_contentId
  simp only [RequestFields.check, bind_eq_ok, exists_unit, raiseIf_eq_ok, hid]
  decide

def sampleRequest (e : SystemGateEvaluation sampleSha) : SemanticGateInvocationRequest :=
  ⟨⟨e.evaluationId, [104, 105], none⟩, by rw [e.identified]; exact sampleRequest_checked _⟩

-- The provider times out, so an attempt keeps its prompt alone.
def sampleCall (e : SystemGateEvaluation sampleSha) (startedAt : CanonicalTime) :
    SemanticGateInvocation where
  provider := sampleProvider
  configuration := sampleConfiguration
  context := sampleProvider.toAuthenticatedSemanticProviderContext
  request := sampleRequest e
  startedAt := startedAt
  finishedAt := startedAt
  elapsedMs := 0
  returned := .failure ⟨.timeout, none, none, none⟩

def withEvidence (db : ArtifactDb sampleSha) (e : SystemGateEvaluation sampleSha)
    (snapshot : RetrievalSnapshot) : ArtifactDb sampleSha :=
  { db with evidence := db.evidence.set e.evaluationId (e, snapshot) }

def sampleDb : ArtifactDb sampleSha :=
  withEvidence (withEvidence {} sampleEvaluation sampleSnapshot) otherEvaluation otherSnapshot

structure Prepared (hash : ContentHash) where
  state : VerifiedState sampleSha
  bundle : StoredSemanticGateAttemptArtifacts sampleSha hash

def prepare (call : SemanticGateInvocation) : Except ServiceError (Prepared sampleHash) := do
  let state ← loadVerifiedState sampleDb call
  raiseIf (state.chain ≠ []) resultInvalid
  let bundle ← orServiceError
    (buildBundle sampleHash call state call.startedAt (ownResponse call)) resultInvalid
  raiseIf (rowFits bundle.attempt = false) resultInvalid
  return ⟨state, bundle⟩

def samplePair : Except ServiceError (Prepared sampleHash × Prepared sampleHash) := do
  let first ← prepare (sampleCall sampleEvaluation sampleTime)
  let second ← prepare (sampleCall otherEvaluation laterTime)
  raiseIf (second.bundle.attempt.attemptId = first.bundle.attempt.attemptId ∨
    otherEvaluation.evaluationId = sampleEvaluation.evaluationId ∨ laterTime = sampleTime) resultInvalid
  return (first, second)

set_option maxRecDepth 20000 in
theorem samplePair_completes : samplePair.toOption.isSome = true := by
  decide +kernel

theorem ready_of_prepare {call : SemanticGateInvocation} {prepared : Prepared sampleHash}
    (hfirst : call.request.expectedPreviousAttemptId = none) (hreturned : verifyReturned call = .ok ())
    (hlatency : verifyLatency call = .ok ()) (h : prepare call = .ok prepared) :
    Ready sampleHash sampleDb call prepared.state prepared.bundle := by
  simp only [prepare, bind_eq_ok, exists_unit, raiseIf_eq_ok, orServiceError_eq_ok, pure_eq_ok, ne_eq,
    not_not, Bool.not_eq_false] at h
  obtain ⟨state, hloaded, hempty, bundle, hbuilt, hfits, rfl⟩ := h
  refine ⟨hloaded, hempty, hfirst, hreturned, hlatency, hbuilt, hfits, ?_⟩
  intro a ha
  cases ha

theorem ready_sampleCall {e : SystemGateEvaluation sampleSha} {startedAt : CanonicalTime}
    {prepared : Prepared sampleHash} (h : prepare (sampleCall e startedAt) = .ok prepared) :
    Ready sampleHash sampleDb (sampleCall e startedAt) prepared.state prepared.bundle :=
  ready_of_prepare rfl rfl rfl h

structure SampleCalls (first second : Prepared sampleHash) : Prop where
  readyFirst : Ready sampleHash sampleDb (sampleCall sampleEvaluation sampleTime) first.state first.bundle
  readySecond : Ready sampleHash sampleDb (sampleCall otherEvaluation laterTime) second.state second.bundle
  attempts : second.bundle.attempt.attemptId ≠ first.bundle.attempt.attemptId
  evaluations : otherEvaluation.evaluationId ≠ sampleEvaluation.evaluationId
  times : laterTime ≠ sampleTime

theorem exists_sampleCalls : ∃ first second, SampleCalls first second := by
  obtain ⟨pair, hpair⟩ : ∃ pair, samplePair = .ok pair := by
    have hcompletes := samplePair_completes
    cases hpair : samplePair with
    | ok pair => exact ⟨pair, rfl⟩
    | error error =>
      rw [hpair] at hcompletes
      cases hcompletes
  simp only [samplePair, bind_eq_ok, exists_unit, raiseIf_eq_ok, pure_eq_ok, not_or] at hpair
  obtain ⟨first, hfirst, second, hsecond, ⟨hattempts, hevaluations, htimes⟩, rfl⟩ := hpair
  exact ⟨first, second, ready_sampleCall hfirst, ready_sampleCall hsecond, hattempts, hevaluations, htimes⟩

theorem Ready.verified {call : SemanticGateInvocation} {state : VerifiedState sha}
    {bundle : StoredSemanticGateAttemptArtifacts sha hash} (h : Ready hash db call state bundle)
    (hsound : db.evidence.get? call.request.systemGateEvaluationId = some (e, snapshot)) :
    verifySystemGateEvaluation e snapshot = .ok () := by
  have hloaded := h.loaded
  simp only [loadVerifiedState, loadGateRecords, bind_eq_ok, exists_unit, raiseIf_eq_ok, demand_eq_ok,
    orServiceError_eq_ok, orStoreError_eq_ok, pure_eq_ok] at hloaded
  obtain ⟨-, _, ⟨records, hevidence, hverified, -⟩, -⟩ := hloaded
  obtain rfl := Option.some.inj (hevidence.symm.trans hsound)
  exact hverified

theorem SampleCalls.reachable {first second : Prepared sampleHash} (h : SampleCalls first second) :
    Reachable sampleHash sampleDb := by
  have hget : sampleDb.evidence.get? sampleEvaluation.evaluationId =
      some (sampleEvaluation, sampleSnapshot) := by
    refine (Dict.get?_set_of_ne _ _ h.evaluations.symm).trans (Dict.get?_set_self _ _ _)
  have hother : sampleDb.evidence.get? otherEvaluation.evaluationId =
      some (otherEvaluation, otherSnapshot) := Dict.get?_set_self _ _ _
  have hfirst : Reachable sampleHash (withEvidence {} sampleEvaluation sampleSnapshot) :=
    .evidence .initial (h.readyFirst.verified hget) rfl
  have habsent : (withEvidence {} sampleEvaluation sampleSnapshot).evidence.get?
      otherEvaluation.evaluationId = none := Dict.get?_set_of_ne _ _ h.evaluations
  exact .evidence hfirst (h.readySecond.verified hother) habsent

theorem sampleCall_compatible :
    Compatible sampleHash sampleDb (sampleCall sampleEvaluation sampleTime) := by
  refine ⟨⟨?_⟩, ?_⟩
  · intro row hrow
    cases hrow
  · intro r hr
    cases hr

theorem first_attempt_stored_sample : ∃ state bundle db',
    Ready sampleHash sampleDb (sampleCall sampleEvaluation sampleTime) state bundle ∧
      invoke sampleHash sampleDb (sampleCall sampleEvaluation sampleTime) = .ok (bundle, db') := by
  obtain ⟨first, second, hcalls⟩ := exists_sampleCalls
  obtain ⟨db', hstored⟩ :=
    (first_attempt_stored_iff hcalls.reachable hcalls.readyFirst).mpr sampleCall_compatible
  exact ⟨_, _, db', hcalls.readyFirst, hstored⟩

-- Two sessions ask with the same prompt at different times.
theorem second_session_refused : ∃ first db state bundle,
    invoke sampleHash sampleDb (sampleCall sampleEvaluation sampleTime) = .ok (first, db) ∧
      Reachable sampleHash db ∧
      Ready sampleHash db (sampleCall otherEvaluation laterTime) state bundle ∧
      ¬∃ db', invoke sampleHash db (sampleCall otherEvaluation laterTime) = .ok (bundle, db') := by
  obtain ⟨first, second, hcalls⟩ := exists_sampleCalls
  have hsound := hcalls.reachable.sound
  obtain ⟨db', hstored⟩ := (hcalls.readyFirst.stored_iff hsound).mpr sampleCall_compatible
  refine ⟨first.bundle, db', second.state, second.bundle, hstored, ?_, ?_, ?_⟩
  · exact .stored hcalls.reachable (hcalls.readyFirst.store_of_invoke hsound hstored)
  · exact hcalls.readyFirst.after hcalls.readySecond hsound hcalls.evaluations hcalls.attempts hstored
  · exact hcalls.readyFirst.refused_after hcalls.readySecond hsound hcalls.evaluations hcalls.attempts
      hstored rfl hcalls.times

end Sample

end SemanticGate

end TraceBackedMemory
