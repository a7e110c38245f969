import TraceBackedMemory.Semantic.GateService

namespace TraceBackedMemory

open Text Raising Replay

namespace SemanticGate

variable {sha : Sha256} {hash : ContentHash} {db db' : ArtifactDb sha} {b : BundleFields sha hash}
  {a : SemanticGateAttempt sha} {e : SystemGateEvaluation sha} {snapshot : RetrievalSnapshot}

section Rules

theorem orStoreError_eq_ok {α : Type} {x : Except GateError α} {error : StoreError} {v : α} :
    orStoreError x error = .ok v ↔ x = .ok v := by
  cases x with
  | ok w => simp [orStoreError]
  | error w => simp [orStoreError]

theorem orServiceError_eq_ok {ε α : Type} {x : Except ε α} {error : ServiceError} {v : α} :
    orServiceError x error = .ok v ↔ x = .ok v := by
  cases x with
  | ok w => simp [orServiceError]
  | error w => simp [orServiceError]

theorem storedAccept_eq_ok {fields : StoredFields} {s : StoredSemanticGateArtifact hash} :
    fields.accept hash = .ok s ↔ s.toStoredFields = fields := by
  unfold StoredFields.accept
  split
  · constructor
    · intro h
      cases h
      rfl
    · rintro rfl
      rfl
  · rename_i error h
    constructor
    · intro hs
      cases hs
    · rintro rfl
      rw [s.checked] at h
      cases h

theorem bindingAccept_eq_ok {fields : BindingFields} {binding : SemanticGateArtifactBinding}
    (h : fields.accept = .ok binding) : binding.toBindingFields = fields := by
  unfold BindingFields.accept at h
  split at h
  · cases h
    rfl
  · cases h

theorem bundleAccept_eq_ok {bundle : StoredSemanticGateAttemptArtifacts sha hash} :
    b.accept = .ok bundle ↔ bundle.toBundleFields = b := by
  unfold BundleFields.accept
  split
  · constructor
    · intro h
      cases h
      rfl
    · rintro rfl
      rfl
  · rename_i error h
    constructor
    · intro hs
      cases hs
    · rintro rfl
      rw [bundle.checked] at h
      cases h

end Rules

section Tables

-- The tables change only by keeping evidence and by storing an attempt with its artifacts,
-- so every interleaving of invocations stays within these steps.
inductive Reachable (hash : ContentHash) : ArtifactDb sha → Prop
  | initial : Reachable hash {}
  | evidence {db : ArtifactDb sha} {e : SystemGateEvaluation sha} {snapshot : RetrievalSnapshot}
      (earlier : Reachable hash db) (verified : verifySystemGateEvaluation e snapshot = .ok ())
      (absent : db.evidence.get? e.evaluationId = none) :
      Reachable hash { db with evidence := db.evidence.set e.evaluationId (e, snapshot) }
  | stored {db db' : ArtifactDb sha} {b : BundleFields sha hash} (earlier : Reachable hash db)
      (step : storeAttemptWithArtifacts db b = .ok db') : Reachable hash db'

structure SoundTables (db : ArtifactDb sha) : Prop where
  headed : ∀ id a, db.attempts.get? id = some a → db.heads.contains a.systemGateEvaluationId = true
  bound : ∀ k row, db.bindings.get? k = some row → db.attempts.contains k.1 = true
  evidenced : ∀ id records, db.evidence.get? id = some records → records.1.evaluationId = id ∧
    verifySystemGateEvaluation records.1 records.2 = .ok ()

theorem SoundTables.initial : SoundTables ({} : ArtifactDb sha) where
  headed id a h := by cases h
  bound k row h := by cases h
  evidenced id records h := by cases h

-- What an append leaves behind: either nothing changes, or one attempt and its head are new.
structure Extended (db db' : ArtifactDb sha) (a : SemanticGateAttempt sha) (e : SystemGateEvaluation sha)
    (snapshot : RetrievalSnapshot) : Prop where
  state_eq : db' = { db with
    attempts := db.attempts.set a.attemptId a
    heads := db.heads.set a.systemGateEvaluationId
      ⟨e.sessionId, snapshot.snapshotId, a.sequence, a.attemptId⟩ }

theorem storeAttempt_cases (h : storeAttempt db a = .ok db') :
    (db' = db ∧ db.attempts.get? a.attemptId = some a) ∨
      ∃ records, db.evidence.get? a.systemGateEvaluationId = some records ∧
        Extended db db' a records.1 records.2 := by
  simp only [storeAttempt, loadGateRecords, bind_eq_ok, exists_unit, raiseIf_eq_ok, demand_eq_ok,
    pure_eq_ok, orStoreError_eq_ok] at h
  obtain ⟨-, records, ⟨_, hrecords, -, rfl⟩, -, appended, happend, head, -, chain, -, -, rfl⟩ := h
  simp only [appendAttempt] at happend
  split at happend
  · rename_i existing hexisting
    simp only [replayedAttempt, bind_eq_ok, exists_unit, raiseIf_eq_ok, pure_eq_ok, ne_eq, not_not]
      at happend
    obtain ⟨rfl, _, -, _, -, -, rfl⟩ := happend
    exact .inl ⟨rfl, hexisting⟩
  · simp only [extendedChain, bind_eq_ok, exists_unit, raiseIf_eq_ok, pure_eq_ok] at happend
    obtain ⟨_, -, -, -, rfl⟩ := happend
    exact .inr ⟨_, hrecords, ⟨rfl⟩⟩

-- A put keeps every table but its own, and adds at most its own row to that one.
structure Put (db db' : ArtifactDb sha) (s : StoredSemanticGateArtifact hash) : Prop where
  evidence : db'.evidence = db.evidence
  attempts : db'.attempts = db.attempts
  heads : db'.heads = db.heads
  artifacts : ∀ id, db'.artifacts.get? id =
    if id = s.binding.artifact.artifactId then some s.row else db.artifacts.get? id
  bindings : ∀ k, db'.bindings.get? k =
    if k = (s.binding.attemptId, s.binding.artifactRole) then some s.binding else db.bindings.get? k

structure Admits (db : ArtifactDb sha) (s : StoredSemanticGateArtifact hash) : Prop where
  artifact : ∀ row, db.artifacts.get? s.binding.artifact.artifactId = some row → row = s.row
  binding : ∀ row, db.bindings.get? (s.binding.attemptId, s.binding.artifactRole) = some row →
    row = s.binding

theorem get?_of_kept {κ α : Type} [DecidableEq κ] {d : Dict κ α} {k : κ} {v : α}
    (h : d.get? k = some v) (j : κ) : d.get? j = if j = k then some v else d.get? j := by
  by_cases hj : j = k
  · rw [if_pos hj, hj, h]
  · rw [if_neg hj]

theorem putArtifact_cases {s : StoredSemanticGateArtifact hash} (h : putArtifact db s = .ok db') :
    (∀ row, db.artifacts.get? s.binding.artifact.artifactId = some row → row = s.row) ∧
      db' = { db with artifacts := db'.artifacts } ∧
      ∀ id, db'.artifacts.get? id =
        if id = s.binding.artifact.artifactId then some s.row else db.artifacts.get? id := by
  simp only [putArtifact] at h
  split at h
  · rename_i row hrow
    simp only [bind_eq_ok, exists_unit, raiseIf_eq_ok, pure_eq_ok, ne_eq, not_not] at h
    obtain ⟨rfl, rfl⟩ := h
    refine ⟨?_, rfl, get?_of_kept hrow⟩
    intro row' hrow'
    exact Option.some.inj (hrow'.symm.trans hrow)
  · rename_i hnone
    cases h
    refine ⟨?_, rfl, fun id => Dict.get?_set _ _ _ _⟩
    intro row hrow
    rw [hnone] at hrow
    cases hrow

theorem putBinding_cases {row : SemanticGateArtifactBinding} (h : putBinding db row = .ok db') :
    (∀ kept, db.bindings.get? (row.attemptId, row.artifactRole) = some kept → kept = row) ∧
      db' = { db with bindings := db'.bindings } ∧
      ∀ k, db'.bindings.get? k =
        if k = (row.attemptId, row.artifactRole) then some row else db.bindings.get? k := by
  simp only [putBinding] at h
  split at h
  · rename_i kept hkept
    simp only [bind_eq_ok, exists_unit, raiseIf_eq_ok, pure_eq_ok, ne_eq, not_not] at h
    obtain ⟨rfl, rfl⟩ := h
    refine ⟨?_, rfl, get?_of_kept hkept⟩
    intro kept' hkept'
    exact Option.some.inj (hkept'.symm.trans hkept)
  · rename_i hnone
    cases h
    refine ⟨?_, rfl, fun k => Dict.get?_set _ _ _ _⟩
    intro kept hkept
    rw [hnone] at hkept
    cases hkept

theorem putStored_cases {s : StoredSemanticGateArtifact hash} (h : putStored db s = .ok db') :
    Put db db' s ∧ Admits db s := by
  simp only [putStored, bind_eq_ok] at h
  obtain ⟨mid, hmid, h⟩ := h
  obtain ⟨hartifact, hmid_eq, hartifacts⟩ := putArtifact_cases hmid
  obtain ⟨hbinding, hdb', hbindings⟩ := putBinding_cases h
  rw [hmid_eq] at hbinding hbindings hdb'
  refine ⟨⟨?_, ?_, ?_, ?_, hbindings⟩, hartifact, hbinding⟩
  · rw [hdb']
  · rw [hdb']
  · rw [hdb']
  · rw [hdb']
    exact hartifacts

theorem putStored_of_admits {s : StoredSemanticGateArtifact hash} (h : Admits db s) :
    ∃ db', putStored db s = .ok db' := by
  have hartifact : ∃ mid, putArtifact db s = .ok mid ∧ mid.bindings = db.bindings := by
    simp only [putArtifact]
    split
    · rename_i row hrow
      rw [h.artifact row hrow, raiseIf_of_not (not_not.mpr rfl)]
      exact ⟨db, rfl, rfl⟩
    · exact ⟨_, rfl, rfl⟩
  obtain ⟨mid, hmid, hbindings⟩ := hartifact
  have hbinding : ∃ db', putBinding mid s.binding = .ok db' := by
    simp only [putBinding, hbindings]
    split
    · rename_i row hrow
      rw [h.binding row hrow, raiseIf_of_not (not_not.mpr rfl)]
      exact ⟨_, rfl⟩
    · exact ⟨_, rfl⟩
  obtain ⟨db', hdb'⟩ := hbinding
  refine ⟨db', ?_⟩
  rw [putStored, hmid]
  exact hdb'

-- Storing a bundle puts its attempt, then its prompt, then its response.
structure StoredBundle (db db' : ArtifactDb sha) (b : BundleFields sha hash) : Prop where
  valid : validateBundle b.attempt b.prompt b.response = .ok ()
  puts : ∃ appended prompted, storeAttempt db b.attempt = .ok appended ∧
    putStored appended b.prompt = .ok prompted ∧ putResponse prompted b.response = .ok db'

theorem storedBundle_of_ok (h : storeAttemptWithArtifacts db b = .ok db') : StoredBundle db db' b := by
  simp only [storeAttemptWithArtifacts, bind_eq_ok, exists_unit, pure_eq_ok] at h
  obtain ⟨hvalid, appended, happended, prompted, hprompted, stored, hstored, -, -, -, -, -, rfl⟩ := h
  exact ⟨hvalid, appended, prompted, happended, hprompted, hstored⟩

theorem validateStored_cases {s : StoredSemanticGateArtifact hash} {role : ArtifactRole}
    (h : validateStored a s role = .ok ()) : s.binding.artifactRole = role ∧
      verifySemanticGateArtifactBinding hash s.binding a s.content = .ok true := by
  simp only [validateStored, bind_eq_ok, exists_unit, raiseIf_eq_ok, orStoreError_eq_ok, ne_eq, not_not,
    Bool.not_eq_false] at h
  obtain ⟨hrole, -, _, hmatched, rfl⟩ := h
  exact ⟨hrole, hmatched⟩

theorem attemptId_of_verified {row : SemanticGateArtifactBinding} {content : List UInt8}
    (h : verifySemanticGateArtifactBinding hash row a content = .ok true) :
    row.attemptId = a.attemptId := by
  simp only [verifySemanticGateArtifactBinding, bind_eq_ok, pure_eq_ok, Bool.and_eq_true,
    decide_eq_true_eq] at h
  obtain ⟨_, -, ⟨⟨-, hid⟩, -⟩, -⟩ := h
  exact hid

theorem validateResponse_some {s : StoredSemanticGateArtifact hash}
    (h : validateResponse a (some s) = .ok ()) :
    a.status = .succeeded ∧ validateStored a s .response = .ok () := by
  simp only [validateResponse] at h
  split at h
  · cases h
  · rename_i hstatus hs
    cases hs
    exact ⟨hstatus, h⟩
  · cases h
  · rename_i hnone
    cases hnone

theorem SoundTables.extend (h : SoundTables db) (hextended : Extended db db' a e snapshot) :
    SoundTables db' := by
  rw [hextended.state_eq]
  refine ⟨?_, ?_, h.evidenced⟩
  · refine Dict.forall_get?_set ?_ ?_
    · rw [Dict.contains, Dict.get?_set_self]
      rfl
    · intro id a' ha'
      exact Dict.covers_set _ _ _ _ (h.headed id a' ha')
  · intro k row hrow
    exact Dict.covers_set _ _ _ _ (h.bound k row hrow)

theorem SoundTables.storeAttempt (h : SoundTables db) (hstore : SemanticGate.storeAttempt db a = .ok db') :
    SoundTables db' ∧ db'.attempts.contains a.attemptId = true := by
  rcases storeAttempt_cases hstore with ⟨rfl, hkept⟩ | ⟨records, -, hextended⟩
  · refine ⟨h, ?_⟩
    rw [Dict.contains, hkept]
    rfl
  · refine ⟨h.extend hextended, ?_⟩
    rw [hextended.state_eq, Dict.contains, Dict.get?_set_self]
    rfl

theorem SoundTables.put (h : SoundTables db) {s : StoredSemanticGateArtifact hash}
    (hput : Put db db' s) (hbound : db.attempts.contains s.binding.attemptId = true) :
    SoundTables db' := by
  refine ⟨?_, ?_, ?_⟩
  · rw [hput.attempts, hput.heads]
    exact h.headed
  · intro k row hrow
    rw [hput.attempts]
    rw [hput.bindings] at hrow
    split at hrow
    · rename_i hk
      rw [hk]
      exact hbound
    · exact h.bound k row hrow
  · rw [hput.evidence]
    exact h.evidenced

theorem SoundTables.store (h : SoundTables db) (hstore : storeAttemptWithArtifacts db b = .ok db') :
    SoundTables db' := by
  obtain ⟨hvalid, appended, prompted, happended, hprompted, hresponse⟩ := storedBundle_of_ok hstore
  obtain ⟨hsound, hkept⟩ := h.storeAttempt happended
  simp only [validateBundle, bind_eq_ok, exists_unit] at hvalid
  obtain ⟨hprompt, hresponseValid⟩ := hvalid
  obtain ⟨hput, -⟩ := putStored_cases hprompted
  have hid := attemptId_of_verified (validateStored_cases hprompt).2
  have hprompts : SoundTables prompted := by
    refine hsound.put hput ?_
    rw [hid]
    exact hkept
  cases hr : b.response with
  | none =>
    rw [hr] at hresponse
    cases hresponse
    exact hprompts
  | some s =>
    rw [hr] at hresponse hresponseValid
    obtain ⟨hput', -⟩ := putStored_cases hresponse
    refine hprompts.put hput' ?_
    have hvalid := (validateResponse_some hresponseValid).2
    rw [hput.attempts, attemptId_of_verified (validateStored_cases hvalid).2]
    exact hkept

theorem Reachable.sound (h : Reachable hash db) : SoundTables db := by
  induction h with
  | initial => exact SoundTables.initial
  | @evidence db e snapshot earlier verified absent ih =>
    refine ⟨ih.headed, ih.bound, ?_⟩
    exact Dict.forall_get?_set ⟨rfl, verified⟩ ih.evidenced
  | stored earlier step ih => exact ih.store step

end Tables

section Building

variable {call : SemanticGateInvocation} {state : VerifiedState sha}

def descriptor (hash : ContentHash) (call : SemanticGateInvocation) (content : List UInt8)
    (mediaType : Str) (createdAt : CanonicalTime) : ArtifactFields :=
  ⟨hash.digest content, content.length, mediaType, call.configuration.classification, createdAt, none,
    call.configuration.redactionPolicyId⟩

-- What an invocation stores under one role, in terms of the invocation alone.
structure Described (call : SemanticGateInvocation) (a : SemanticGateAttempt sha) (role : ArtifactRole)
    (content : List UInt8) (mediaType : Str) (createdAt : CanonicalTime)
    (s : StoredSemanticGateArtifact hash) : Prop where
  role_eq : s.binding.artifactRole = role
  attempt : s.binding.attemptId = a.attemptId
  content_eq : s.content = content
  artifact : s.binding.artifact.toArtifactFields = descriptor hash call content mediaType createdAt

theorem described_of_ok {role : ArtifactRole} {content : List UInt8} {mediaType : Str}
    {createdAt : CanonicalTime} {s : StoredSemanticGateArtifact hash}
    (h : storedArtifact hash call a content role mediaType createdAt = .ok s) :
    Described call a role content mediaType createdAt s := by
  simp only [storedArtifact, createSemanticGateArtifactBinding, bind_eq_ok, exists_unit, pure_eq_ok,
    storedAccept_eq_ok] at h
  obtain ⟨_, ⟨_, -, -, artifact, hartifact, binding, hbinding, -, rfl⟩, hs⟩ := h
  have hfields := bindingAccept_eq_ok hbinding
  have hcreated := createContentAddressedArtifact_eq_ok hartifact
  have hbound : s.binding = binding := by rw [hs]
  refine ⟨?_, ?_, ?_, ?_⟩
  · rw [hbound, hfields]
  · rw [hbound, hfields]
  · rw [hs]
  · rw [hbound, hfields]
    exact hcreated

structure BuiltBundle (call : SemanticGateInvocation) (state : VerifiedState sha)
    (createdAt : CanonicalTime) (response : Option ResponseContent)
    (bundle : StoredSemanticGateAttemptArtifacts sha hash) : Prop where
  content : ∃ promptSha256 responseSha256,
    bundle.attempt.toAttemptContent = attemptContent call state promptSha256 responseSha256
  verified : verifySemanticGateAttempt bundle.attempt state.evaluation state.snapshot = .ok ()
  parent : verifySemanticGateAttemptParent bundle.attempt state.chain.getLast? = .ok ()
  prompt : Described call bundle.attempt .prompt call.request.prompt promptMediaType createdAt
    bundle.prompt
  response : storedResponse hash call bundle.attempt response = .ok bundle.response

theorem buildAttempt_eq_ok {c : AttemptContent} (h : buildSemanticGateAttempt sha c = .ok a) :
    a.toAttemptContent = c := by
  unfold buildSemanticGateAttempt at h
  split at h
  · cases h
    rfl
  · cases h

theorem builtBundle_of_ok {createdAt : CanonicalTime} {response : Option ResponseContent}
    {bundle : StoredSemanticGateAttemptArtifacts sha hash}
    (h : buildBundle hash call state createdAt response = .ok bundle) :
    BuiltBundle call state createdAt response bundle := by
  simp only [buildBundle, bind_eq_ok, exists_unit, bundleAccept_eq_ok] at h
  obtain ⟨_, -, _, -, a, ha, hverified, hparent, prompt, hprompt, response, hresponse, hbundle⟩ := h
  obtain ⟨fields, hchecked⟩ := bundle
  cases hbundle
  exact ⟨⟨_, _, buildAttempt_eq_ok ha⟩, hverified, hparent, described_of_ok hprompt, hresponse⟩

end Building

section Storing

def appendedDb (db : ArtifactDb sha) (a : SemanticGateAttempt sha) (e : SystemGateEvaluation sha)
    (snapshot : RetrievalSnapshot) : ArtifactDb sha :=
  { db with
    attempts := db.attempts.set a.attemptId a
    heads := db.heads.set a.systemGateEvaluationId
      ⟨e.sessionId, snapshot.snapshotId, a.sequence, a.attemptId⟩ }

-- The first attempt of an evaluation that has none yet.
structure FirstOf (db : ArtifactDb sha) (a : SemanticGateAttempt sha) (e : SystemGateEvaluation sha)
    (snapshot : RetrievalSnapshot) : Prop where
  evidence : db.evidence.get? a.systemGateEvaluationId = some (e, snapshot)
  verified : verifySemanticGateAttempt a e snapshot = .ok ()
  parent : verifySemanticGateAttemptParent a none = .ok ()
  headless : db.heads.get? a.systemGateEvaluationId = none
  fits : rowFits a = true
  fresh : db.attempts.get? a.attemptId = none

namespace FirstOf

theorem evaluation (h : FirstOf db a e snapshot) : a.systemGateEvaluationId = e.evaluationId := by
  have hverified := h.verified
  simp only [verifySemanticGateAttempt, bind_eq_ok, exists_unit, raiseIf_eq_ok, ne_eq, not_not] at hverified
  exact hverified.2.2.2.1

theorem evaluated (h : FirstOf db a e snapshot) : verifySystemGateEvaluation e snapshot = .ok () := by
  have hverified := h.verified
  simp only [verifySemanticGateAttempt, bind_eq_ok, exists_unit] at hverified
  exact hverified.1

theorem sequence (h : FirstOf db a e snapshot) : a.sequence = 1 := by
  have hparent := h.parent
  rw [verifySemanticGateAttemptParent, raiseIf_eq_ok, not_not] at hparent
  exact hparent

theorem chainRows_eq (h : FirstOf db a e snapshot) (hsound : SoundTables db) :
    chainRows (appendedDb db a e snapshot) e.evaluationId = [a] := by
  have hold : db.attempts.values.filter (fun x => decide (x.systemGateEvaluationId = e.evaluationId)) =
      [] := by
    refine List.filter_eq_nil_iff.mpr ?_
    intro x hx hsame
    obtain ⟨id, hid⟩ := Dict.mem_values.mp hx
    have hheaded := hsound.headed id x hid
    rw [of_decide_eq_true hsame, ← h.evaluation, Dict.contains, h.headless] at hheaded
    cases hheaded
  have hvalues : (appendedDb db a e snapshot).attempts.values = db.attempts.values ++ [a] := by
    show ((db.attempts.set a.attemptId a).entries.map Prod.snd) = _
    rw [Dict.entries_set_of_none _ h.fresh, List.map_append]
    rfl
  rw [chainRows, hvalues, List.filter_append, hold, List.nil_append, List.filter_cons_of_pos]
  · rfl
  · exact decide_eq_true h.evaluation

theorem verifiedChain (h : FirstOf db a e snapshot) :
    verifySemanticGateAttemptChain [a] e snapshot = .ok () := by
  rw [verifySemanticGateAttemptChain, raiseIf_of_not]
  · show (verifySemanticGateAttempt a e snapshot >>= _) = _
    rw [h.verified]
    show (verifySemanticGateAttemptParent a none >>= _) = _
    rw [h.parent]
    rfl
  · simp [maxDecisions]

theorem loadChain_eq (h : FirstOf db a e snapshot) (hsound : SoundTables db) :
    loadChain (appendedDb db a e snapshot) e snapshot
      ⟨e.sessionId, snapshot.snapshotId, a.sequence, a.attemptId⟩ = .ok [a] := by
  simp only [loadChain, bind_eq_ok, exists_unit, raiseIf_eq_ok, orStoreError_eq_ok, pure_eq_ok,
    h.chainRows_eq hsound, h.verifiedChain]
  simp [h.sequence, maxDecisions]

theorem storeAttempt_eq (h : FirstOf db a e snapshot) (hsound : SoundTables db) :
    storeAttempt db a = .ok (appendedDb db a e snapshot) := by
  have hparent : chainParent db a e snapshot = .ok none := by
    rw [chainParent, h.headless]
  have happend : appendAttempt db a e snapshot = .ok (appendedDb db a e snapshot) := by
    simp only [appendAttempt, h.fresh, extendedChain, hparent, bind_eq_ok, exists_unit, raiseIf_eq_ok,
      orStoreError_eq_ok, pure_eq_ok, h.fits]
    exact ⟨none, rfl, h.parent, Bool.noConfusion, rfl⟩
  have hrecords : loadGateRecords db a.systemGateEvaluationId = .ok (e, snapshot) := by
    simp only [loadGateRecords, bind_eq_ok, exists_unit, demand_eq_ok, orStoreError_eq_ok, pure_eq_ok]
    exact ⟨_, h.evidence, h.evaluated, rfl⟩
  simp only [storeAttempt, hrecords, bind_eq_ok, exists_unit, raiseIf_eq_ok, orStoreError_eq_ok,
    demand_eq_ok, pure_eq_ok]
  refine ⟨?_, _, rfl, h.verified, _, happend, _, Dict.get?_set_self _ _ _, _, h.loadChain_eq hsound, ?_,
    rfl⟩
  · rw [h.sequence, maxDecisions]
    decide
  · exact not_not.mpr (List.mem_singleton.mpr rfl)

end FirstOf

theorem loadStored_some {s : StoredSemanticGateArtifact hash} {role : ArtifactRole}
    (hbinding : db.bindings.get? (a.attemptId, role) = some s.binding)
    (hartifact : db.artifacts.get? s.binding.artifact.artifactId = some s.row)
    (hverified : verifySemanticGateArtifactBinding hash s.binding a s.content = .ok true) :
    loadStored hash db a role = .ok (some s) := by
  have hjoined : joinedRow db a.attemptId role = some (s.binding, s.row) := by
    rw [joinedRow, hbinding]
    show (db.artifacts.get? s.binding.artifact.artifactId >>= _) = _
    rw [hartifact]
    rfl
  have hstored : storedFromRow hash a (s.binding, s.row) = .ok s := by
    simp only [storedFromRow, bind_eq_ok, exists_unit, raiseIf_eq_ok, orStoreError_eq_ok,
      storedAccept_eq_ok, pure_eq_ok]
    exact ⟨s, rfl, not_not.mpr rfl, true, hverified, Bool.noConfusion, rfl⟩
  simp only [loadStored, hjoined, hstored]
  rfl

theorem loadStored_none {role : ArtifactRole} (hbinding : db.bindings.get? (a.attemptId, role) = none) :
    loadStored hash db a role = .ok none := by
  have hjoined : joinedRow db a.attemptId role = none := by
    rw [joinedRow, hbinding]
    rfl
  simp only [loadStored, hjoined]

-- The artifacts of a bundle carry its own roles and are ones the store may keep.
structure Storable (b : BundleFields sha hash) : Prop where
  prompt : validateStored b.attempt b.prompt .prompt = .ok ()
  response : validateResponse b.attempt b.response = .ok ()

structure Unclashing (db : ArtifactDb sha) (b : BundleFields sha hash) : Prop where
  prompt : ∀ row, db.artifacts.get? b.prompt.binding.artifact.artifactId = some row → row = b.prompt.row
  response : ∀ s, b.response = some s →
    (∀ row, db.artifacts.get? s.binding.artifact.artifactId = some row → row = s.row) ∧
      (s.binding.artifact.artifactId = b.prompt.binding.artifact.artifactId → s.row = b.prompt.row)

theorem bindings_fresh (hfirst : FirstOf db a e snapshot) (hsound : SoundTables db) (role : ArtifactRole) :
    (appendedDb db a e snapshot).bindings.get? (a.attemptId, role) = none := by
  show db.bindings.get? (a.attemptId, role) = none
  cases hrow : db.bindings.get? (a.attemptId, role) with
  | none => rfl
  | some row =>
    have hkept := hsound.bound _ row hrow
    rw [Dict.contains, hfirst.fresh] at hkept
    cases hkept

theorem prompt_admitted (hfirst : FirstOf db b.attempt e snapshot) (hsound : SoundTables db)
    (hstorable : Storable b) : Admits (appendedDb db b.attempt e snapshot) b.prompt ↔
      ∀ row, db.artifacts.get? b.prompt.binding.artifact.artifactId = some row → row = b.prompt.row := by
  constructor
  · exact fun h => h.artifact
  · intro h
    refine ⟨h, ?_⟩
    obtain ⟨-, hverified⟩ := validateStored_cases hstorable.prompt
    rw [attemptId_of_verified hverified]
    intro row hrow
    rw [bindings_fresh hfirst hsound] at hrow
    cases hrow

theorem response_admitted (hfirst : FirstOf db b.attempt e snapshot) (hsound : SoundTables db)
    (hstorable : Storable b) {s : StoredSemanticGateArtifact hash} (hs : b.response = some s)
    {prompted : ArtifactDb sha} (hput : Put (appendedDb db b.attempt e snapshot) prompted b.prompt)
    (hprompt : ∀ row, db.artifacts.get? b.prompt.binding.artifact.artifactId = some row →
      row = b.prompt.row) :
    Admits prompted s ↔
      (∀ row, db.artifacts.get? s.binding.artifact.artifactId = some row → row = s.row) ∧
        (s.binding.artifact.artifactId = b.prompt.binding.artifact.artifactId → s.row = b.prompt.row) := by
  have hresponse := hstorable.response
  rw [hs] at hresponse
  obtain ⟨hrole, hverified⟩ := validateStored_cases (validateResponse_some hresponse).2
  have hpromptRole := (validateStored_cases hstorable.prompt).1
  have hbinding : prompted.bindings.get? (s.binding.attemptId, s.binding.artifactRole) = none := by
    rw [hput.bindings, hrole, attemptId_of_verified hverified, if_neg, bindings_fresh hfirst hsound]
    intro hkey
    have hroles := (Prod.mk.inj hkey).2
    rw [hpromptRole] at hroles
    cases hroles
  have hartifacts : ∀ id, prompted.artifacts.get? id =
      if id = b.prompt.binding.artifact.artifactId then some b.prompt.row else db.artifacts.get? id :=
    hput.artifacts
  constructor
  · intro h
    have hsame : s.binding.artifact.artifactId = b.prompt.binding.artifact.artifactId →
        s.row = b.prompt.row := by
      intro hid
      refine (h.artifact b.prompt.row ?_).symm
      rw [hartifacts, if_pos hid]
    refine ⟨?_, hsame⟩
    intro row hrow
    by_cases hid : s.binding.artifact.artifactId = b.prompt.binding.artifact.artifactId
    · rw [hid] at hrow
      rw [hprompt row hrow, hsame hid]
    · refine h.artifact row ?_
      rw [hartifacts, if_neg hid, hrow]
  · rintro ⟨hkept, hsame⟩
    refine ⟨?_, ?_⟩
    · intro row hrow
      rw [hartifacts] at hrow
      split at hrow
      · rename_i hid
        rw [hsame hid]
        exact (Option.some.inj hrow).symm
      · exact hkept row hrow
    · intro row hrow
      rw [hbinding] at hrow
      cases hrow

structure ReadsBack (db db' : ArtifactDb sha) (b : BundleFields sha hash) : Prop where
  evidence : db'.evidence = db.evidence
  attempts : db'.attempts = db.attempts
  heads : db'.heads = db.heads
  row : db'.artifacts.get? b.prompt.binding.artifact.artifactId = some b.prompt.row
  prompt : loadStored hash db' b.attempt .prompt = .ok (some b.prompt)
  response : loadStored hash db' b.attempt .response = .ok b.response

theorem readsBack_of_puts (hfirst : FirstOf db b.attempt e snapshot) (hsound : SoundTables db)
    (hstorable : Storable b) {prompted : ArtifactDb sha}
    (hprompted : putStored (appendedDb db b.attempt e snapshot) b.prompt = .ok prompted)
    (hresponse : putResponse prompted b.response = .ok db') :
    ReadsBack (appendedDb db b.attempt e snapshot) db' b := by
  obtain ⟨hput, -⟩ := putStored_cases hprompted
  obtain ⟨hrole, hverified⟩ := validateStored_cases hstorable.prompt
  have hkey : (b.prompt.binding.attemptId, b.prompt.binding.artifactRole) =
      (b.attempt.attemptId, .prompt) := by
    rw [hrole, attemptId_of_verified hverified]
  have hbinding : prompted.bindings.get? (b.attempt.attemptId, .prompt) = some b.prompt.binding := by
    rw [hput.bindings, hkey, if_pos rfl]
  have hartifact : prompted.artifacts.get? b.prompt.binding.artifact.artifactId = some b.prompt.row := by
    rw [hput.artifacts, if_pos rfl]
  cases hr : b.response with
  | none =>
    rw [hr] at hresponse
    cases hresponse
    refine ⟨hput.evidence, hput.attempts, hput.heads, hartifact,
      loadStored_some hbinding hartifact hverified, ?_⟩
    rw [hr]
    refine loadStored_none ?_
    rw [hput.bindings, hkey, if_neg, bindings_fresh hfirst hsound]
    exact fun hkeys => ArtifactRole.noConfusion (Prod.mk.inj hkeys).2
  | some s =>
    rw [hr] at hresponse
    obtain ⟨hput', hadmits⟩ := putStored_cases hresponse
    have hvalid := hstorable.response
    rw [hr] at hvalid
    obtain ⟨hrole', hverified'⟩ := validateStored_cases (validateResponse_some hvalid).2
    have hkey' : (s.binding.attemptId, s.binding.artifactRole) = (b.attempt.attemptId, .response) := by
      rw [hrole', attemptId_of_verified hverified']
    have hrow : db'.artifacts.get? b.prompt.binding.artifact.artifactId = some b.prompt.row := by
      rw [hput'.artifacts]
      split
      · rename_i hid
        rw [← hadmits.artifact b.prompt.row (by rw [← hid, hartifact])]
      · exact hartifact
    refine ⟨hput'.evidence.trans hput.evidence, hput'.attempts.trans hput.attempts,
      hput'.heads.trans hput.heads, hrow, loadStored_some ?_ hrow hverified, ?_⟩
    · rw [hput'.bindings, hkey', if_neg, hbinding]
      exact fun hkeys => ArtifactRole.noConfusion (Prod.mk.inj hkeys).2
    · rw [hr]
      refine loadStored_some ?_ ?_ hverified'
      · rw [hput'.bindings, hkey', if_pos rfl]
      · rw [hput'.artifacts, if_pos rfl]

theorem storeWithArtifacts_iff (hfirst : FirstOf db b.attempt e snapshot) (hsound : SoundTables db)
    (hstorable : Storable b) : (∃ db', storeAttemptWithArtifacts db b = .ok db') ↔ Unclashing db b := by
  have happended := hfirst.storeAttempt_eq hsound
  constructor
  · rintro ⟨db', h⟩
    obtain ⟨-, appended, prompted, happended', hprompted, hresponse⟩ := storedBundle_of_ok h
    obtain rfl := Except.ok.inj (happended.symm.trans happended')
    obtain ⟨hput, hadmits⟩ := putStored_cases hprompted
    have hprompt := (prompt_admitted hfirst hsound hstorable).mp hadmits
    refine ⟨hprompt, fun s hs => ?_⟩
    rw [hs] at hresponse
    exact (response_admitted hfirst hsound hstorable hs hput hprompt).mp (putStored_cases hresponse).2
  · intro h
    obtain ⟨prompted, hprompted⟩ :=
      putStored_of_admits ((prompt_admitted hfirst hsound hstorable).mpr h.prompt)
    obtain ⟨hput, -⟩ := putStored_cases hprompted
    have hresponse : ∃ db', putResponse prompted b.response = .ok db' := by
      cases hr : b.response with
      | none => exact ⟨prompted, rfl⟩
      | some s =>
        exact putStored_of_admits
          ((response_admitted hfirst hsound hstorable hr hput h.prompt).mpr (h.response s hr))
    obtain ⟨db', hresponse⟩ := hresponse
    have hread := readsBack_of_puts hfirst hsound hstorable hprompted hresponse
    refine ⟨db', ?_⟩
    simp only [storeAttemptWithArtifacts, bind_eq_ok, exists_unit, raiseIf_eq_ok, pure_eq_ok, validateBundle]
    refine ⟨⟨hstorable.prompt, hstorable.response⟩, _, happended, _, hprompted, _, hresponse, _,
      hread.prompt, _, hread.response, ?_, rfl⟩
    simp

theorem loadBundle_of_store {bundle : StoredSemanticGateAttemptArtifacts sha hash}
    (hfirst : FirstOf db bundle.attempt e snapshot) (hsound : SoundTables db)
    (hstorable : Storable bundle.toBundleFields)
    (hid : isAttemptId bundle.attempt.attemptId = true)
    (h : storeAttemptWithArtifacts db bundle.toBundleFields = .ok db') :
    loadAttemptWithArtifacts hash db' bundle.attempt.attemptId = .ok bundle := by
  obtain ⟨-, appended, prompted, happended, hprompted, hresponse⟩ := storedBundle_of_ok h
  obtain rfl := Except.ok.inj ((hfirst.storeAttempt_eq hsound).symm.trans happended)
  have hread := readsBack_of_puts hfirst hsound hstorable hprompted hresponse
  have hloaded : loadAttempt db' bundle.attempt.attemptId = .ok bundle.attempt := by
    have hrows : chainRows db' e.evaluationId = chainRows (appendedDb db bundle.attempt e snapshot)
        e.evaluationId := by
      rw [chainRows, chainRows, hread.attempts]
    have hchain := hfirst.loadChain_eq hsound
    rw [loadChain, ← hrows] at hchain
    simp only [loadAttempt, loadGateRecords, bind_eq_ok, exists_unit, raiseIf_eq_ok, demand_eq_ok,
      orStoreError_eq_ok, pure_eq_ok, hread.attempts, hread.heads, hread.evidence]
    refine ⟨_, Dict.get?_set_self _ _ _, _, ⟨_, hfirst.evidence, hfirst.evaluated, rfl⟩, _,
      Dict.get?_set_self _ _ _, _, hchain, ?_, rfl⟩
    exact not_not.mpr (List.mem_singleton.mpr rfl)
  have hmissing : responseMissing bundle.attempt bundle.response = .ok () := by
    have hvalid := hstorable.response
    simp only [responseMissing, bind_eq_ok, exists_unit, raiseIf_eq_ok]
    cases hr : bundle.response with
    | none =>
      refine ⟨?_, by simp⟩
      rintro ⟨hstatus, -⟩
      rw [hr] at hvalid
      simp only [validateResponse] at hvalid
      split at hvalid
      · cases hvalid
      · rename_i hs
        cases hs
      · rename_i hs
        cases hs
      · rename_i hfailed _
        rw [hfailed] at hstatus
        cases hstatus
    | some s =>
      rw [hr] at hvalid
      refine ⟨by simp, ?_⟩
      rintro ⟨hstatus, -⟩
      rw [(validateResponse_some hvalid).1] at hstatus
      cases hstatus
  simp only [loadAttemptWithArtifacts, bind_eq_ok, exists_unit, raiseIf_eq_ok, demand_eq_ok,
    orStoreError_eq_ok, bundleAccept_eq_ok]
  refine ⟨?_, _, hloaded, _, hread.prompt, _, hread.response, _, rfl, hmissing, rfl⟩
  rw [hid]
  exact Bool.noConfusion

end Storing

end SemanticGate

end TraceBackedMemory
