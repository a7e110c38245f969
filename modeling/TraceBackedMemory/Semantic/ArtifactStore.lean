import TraceBackedMemory.Semantic.Artifacts

namespace TraceBackedMemory

open Text Raising Replay

namespace SemanticGate

variable {sha : Sha256} {hash : ContentHash}

section Tables

inductive StoreFault where
  | conflict | notFound | persistence | invalid
  deriving DecidableEq

structure StoreError where
  fault : StoreFault
  message : Str
  deriving DecidableEq

def storeConflict (message : String) : StoreError := ⟨.conflict, lit message⟩

def storePersistence (message : String) : StoreError := ⟨.persistence, lit message⟩

def storeInvalid (message : String) : StoreError := ⟨.invalid, lit message⟩

structure AttemptHeadRow where
  sessionId : Str
  retrievalSnapshotId : Str
  currentSequence : Nat
  currentAttemptId : Str
  deriving DecidableEq

structure ArtifactRow where
  artifact : ContentAddressedArtifact
  content : List UInt8
  deriving DecidableEq

-- An evaluation is kept with the snapshot it names; rows are kept as the records they encode.
structure ArtifactDb (sha : Sha256) where
  evidence : Dict Str (SystemGateEvaluation sha × RetrievalSnapshot) := Dict.empty
  attempts : Dict Str (SemanticGateAttempt sha) := Dict.empty
  heads : Dict Str AttemptHeadRow := Dict.empty
  artifacts : Dict Str ArtifactRow := Dict.empty
  bindings : Dict (Str × ArtifactRole) SemanticGateArtifactBinding := Dict.empty

def orStoreError {α : Type} (x : Except GateError α) (e : StoreError) : Except StoreError α :=
  match x with
  | .ok a => .ok a
  | .error _ => .error e

end Tables

section Attempts

def attemptRowMaxBytes : Nat := 1024 * 1024

def rowFits (a : SemanticGateAttempt sha) : Bool :=
  (encodedBytes (Projection.stateText a.toDict)).any (fun n => decide (n ≤ attemptRowMaxBytes))

def loadGateRecords (db : ArtifactDb sha) (evaluationId : Str) :
    Except StoreError (SystemGateEvaluation sha × RetrievalSnapshot) := do
  let records ← demand (db.evidence.get? evaluationId)
    ⟨.notFound, lit "System Gate evaluation was not found"⟩
  orStoreError (verifySystemGateEvaluation records.1 records.2)
    (storePersistence "stored Gate evidence failed cross-record validation")
  return records

def chainRows (db : ArtifactDb sha) (evaluationId : Str) : List (SemanticGateAttempt sha) :=
  (db.attempts.values.filter (fun a => decide (a.systemGateEvaluationId = evaluationId))).insertionSort
    (fun a b => a.sequence ≤ b.sequence)

def loadChain (db : ArtifactDb sha) (e : SystemGateEvaluation sha) (snapshot : RetrievalSnapshot)
    (head : AttemptHeadRow) : Except StoreError (List (SemanticGateAttempt sha)) := do
  raiseIf (head.sessionId ≠ e.sessionId ∨ head.retrievalSnapshotId ≠ snapshot.snapshotId ∨
      head.currentSequence < 1 ∨ maxDecisions < head.currentSequence)
    (storePersistence "stored Semantic Gate head does not match Gate evidence")
  let attempts := chainRows db e.evaluationId
  raiseIf (attempts.length ≠ head.currentSequence ∨
      attempts.getLast?.map SemanticGateAttempt.attemptId ≠ some head.currentAttemptId)
    (storePersistence "stored Semantic Gate head does not match its attempt chain")
  orStoreError (verifySemanticGateAttemptChain attempts e snapshot)
    (storePersistence "stored Semantic Gate attempt chain failed validation")
  return attempts

def replayedAttempt (db : ArtifactDb sha) (existing a : SemanticGateAttempt sha)
    (e : SystemGateEvaluation sha) (snapshot : RetrievalSnapshot) :
    Except StoreError (ArtifactDb sha) := do
  raiseIf (existing ≠ a) (storeConflict "Semantic Gate attempt ID has conflicting content")
  let head ← demand (db.heads.get? a.systemGateEvaluationId)
    (storePersistence "stored Semantic Gate replay is outside its chain")
  let chain ← loadChain db e snapshot head
  raiseIf (a ∉ chain) (storePersistence "stored Semantic Gate replay is outside its chain")
  return db

def chainParent (db : ArtifactDb sha) (a : SemanticGateAttempt sha) (e : SystemGateEvaluation sha)
    (snapshot : RetrievalSnapshot) : Except StoreError (Option (SemanticGateAttempt sha)) :=
  match db.heads.get? a.systemGateEvaluationId with
  | none => .ok none
  | some head => do
    let chain ← loadChain db e snapshot head
    return chain.getLast?

-- The head row is inserted and advanced in the same transaction.
def extendedChain (db : ArtifactDb sha) (a : SemanticGateAttempt sha) (e : SystemGateEvaluation sha)
    (snapshot : RetrievalSnapshot) : Except StoreError (ArtifactDb sha) := do
  let parent ← chainParent db a e snapshot
  orStoreError (verifySemanticGateAttemptParent a parent)
    (storeConflict "Semantic Gate attempt does not extend the current chain")
  raiseIf (rowFits a = false) (storeInvalid "semantic Gate descriptor exceeds storage limit")
  return { db with
    attempts := db.attempts.set a.attemptId a
    heads := db.heads.set a.systemGateEvaluationId
      ⟨e.sessionId, snapshot.snapshotId, a.sequence, a.attemptId⟩ }

def appendAttempt (db : ArtifactDb sha) (a : SemanticGateAttempt sha) (e : SystemGateEvaluation sha)
    (snapshot : RetrievalSnapshot) : Except StoreError (ArtifactDb sha) :=
  match db.attempts.get? a.attemptId with
  | some existing => replayedAttempt db existing a e snapshot
  | none => extendedChain db a e snapshot

def storeAttempt (db : ArtifactDb sha) (a : SemanticGateAttempt sha) :
    Except StoreError (ArtifactDb sha) := do
  raiseIf (maxDecisions < a.sequence)
    (storeInvalid "semantic Gate attempt sequence exceeds ledger bound")
  let records ← loadGateRecords db a.systemGateEvaluationId
  orStoreError (verifySemanticGateAttempt a records.1 records.2)
    (storeConflict "Semantic Gate attempt does not match Gate evidence")
  let appended ← appendAttempt db a records.1 records.2
  let head ← demand (appended.heads.get? a.systemGateEvaluationId)
    (storePersistence "Semantic Gate attempt head is missing after append")
  let chain ← loadChain appended records.1 records.2 head
  raiseIf (a ∉ chain) (storePersistence "Semantic Gate attempt read-back does not match")
  return appended

def loadAttempt (db : ArtifactDb sha) (attemptId : Str) :
    Except StoreError (SemanticGateAttempt sha) := do
  let a ← demand (db.attempts.get? attemptId) ⟨.notFound, lit "Semantic Gate attempt was not found"⟩
  let records ← loadGateRecords db a.systemGateEvaluationId
  let head ← demand (db.heads.get? a.systemGateEvaluationId)
    (storePersistence "stored Semantic Gate attempt is outside its chain")
  let chain ← loadChain db records.1 records.2 head
  raiseIf (a ∉ chain) (storePersistence "stored Semantic Gate attempt is outside its chain")
  return a

def retainedChainOf (db : ArtifactDb sha) (records : SystemGateEvaluation sha × RetrievalSnapshot) :
    Except StoreError (List (SemanticGateAttempt sha)) :=
  match db.heads.get? records.1.evaluationId with
  | none => .ok []
  | some head => loadChain db records.1 records.2 head

def loadAttemptChain (db : ArtifactDb sha) (evaluationId : Str) :
    Except StoreError (List (SemanticGateAttempt sha)) := do
  raiseIf (isSystemGateId evaluationId = false)
    (storeInvalid "evaluation_id must be a v3 System Gate evaluation ID")
  match loadGateRecords db evaluationId with
  | .ok records => retainedChainOf db records
  | .error error => if error.fault = .notFound then .ok [] else .error error

end Attempts

section Artifacts

def StoredSemanticGateArtifact.row (s : StoredSemanticGateArtifact hash) : ArtifactRow :=
  ⟨s.binding.artifact, s.content⟩

def validateStored (a : SemanticGateAttempt sha) (s : StoredSemanticGateArtifact hash)
    (expectedRole : ArtifactRole) : Except StoreError Unit := do
  raiseIf (s.binding.artifactRole ≠ expectedRole)
    ⟨.invalid, expectedRole.text ++ lit " artifact has the wrong role"⟩
  raiseIf (s.binding.artifact.classification ∉ [EventClassification.publicly, .internal])
    (storeInvalid "SQLite semantic Gate artifact storage does not provide encryption at rest")
  let matched ← orStoreError (verifySemanticGateArtifactBinding hash s.binding a s.content)
    ⟨.invalid, expectedRole.text ++ lit " artifact does not match Semantic Gate attempt"⟩
  raiseIf (matched = false)
    ⟨.invalid, expectedRole.text ++ lit " artifact does not match Semantic Gate attempt"⟩

def validateResponse (a : SemanticGateAttempt sha) (response : Option (StoredSemanticGateArtifact hash)) :
    Except StoreError Unit :=
  match a.status, response with
  | .succeeded, none => .error (storeInvalid "succeeded Semantic Gate attempt requires response artifact")
  | .succeeded, some s => validateStored a s .response
  | .failed, some _ => .error (storeInvalid "failed Semantic Gate attempt forbids response artifact")
  | .failed, none => .ok ()

def validateBundle (a : SemanticGateAttempt sha) (prompt : StoredSemanticGateArtifact hash)
    (response : Option (StoredSemanticGateArtifact hash)) : Except StoreError Unit := do
  validateStored a prompt .prompt
  validateResponse a response

-- artifact_id is the one its digest gives, so a row has either both or neither.
def putArtifact (db : ArtifactDb sha) (s : StoredSemanticGateArtifact hash) :
    Except StoreError (ArtifactDb sha) :=
  match db.artifacts.get? s.binding.artifact.artifactId with
  | some row => do
    raiseIf (row ≠ s.row)
      (storeConflict "Semantic Gate artifact identity has conflicting content")
    return db
  | none => .ok { db with artifacts := db.artifacts.set s.binding.artifact.artifactId s.row }

def putBinding (db : ArtifactDb sha) (b : SemanticGateArtifactBinding) :
    Except StoreError (ArtifactDb sha) :=
  match db.bindings.get? (b.attemptId, b.artifactRole) with
  | some row => do
    raiseIf (row ≠ b) (storeConflict "Semantic Gate artifact binding has conflicting content")
    return db
  | none => .ok { db with bindings := db.bindings.set (b.attemptId, b.artifactRole) b }

def putStored (db : ArtifactDb sha) (s : StoredSemanticGateArtifact hash) :
    Except StoreError (ArtifactDb sha) := do
  let db ← putArtifact db s
  putBinding db s.binding

def putResponse (db : ArtifactDb sha) :
    Option (StoredSemanticGateArtifact hash) → Except StoreError (ArtifactDb sha)
  | none => .ok db
  | some s => putStored db s

def joinedRow (db : ArtifactDb sha) (attemptId : Str) (role : ArtifactRole) :
    Option (SemanticGateArtifactBinding × ArtifactRow) := do
  let binding ← db.bindings.get? (attemptId, role)
  let row ← db.artifacts.get? binding.artifact.artifactId
  return (binding, row)

def storedFromRow (hash : ContentHash) (a : SemanticGateAttempt sha)
    (joined : SemanticGateArtifactBinding × ArtifactRow) :
    Except StoreError (StoredSemanticGateArtifact hash) := do
  let stored ← orStoreError (StoredFields.accept hash ⟨joined.1, joined.2.content⟩)
    (storePersistence "stored Semantic Gate artifact failed validation")
  raiseIf (joined.2 ≠ stored.row)
    (storePersistence "stored Semantic Gate artifact columns do not match descriptor")
  let matched ← orStoreError (verifySemanticGateArtifactBinding hash joined.1 a stored.content)
    (storePersistence "stored Semantic Gate artifact does not match attempt")
  raiseIf (matched = false) (storePersistence "stored Semantic Gate artifact does not match attempt")
  return stored

def loadStored (hash : ContentHash) (db : ArtifactDb sha) (a : SemanticGateAttempt sha)
    (role : ArtifactRole) : Except StoreError (Option (StoredSemanticGateArtifact hash)) :=
  match joinedRow db a.attemptId role with
  | none => .ok none
  | some joined => do
    let stored ← storedFromRow hash a joined
    return some stored

def storeAttemptWithArtifacts (db : ArtifactDb sha) (b : BundleFields sha hash) :
    Except StoreError (ArtifactDb sha) := do
  validateBundle b.attempt b.prompt b.response
  let appended ← storeAttempt db b.attempt
  let prompted ← putStored appended b.prompt
  let stored ← putResponse prompted b.response
  let loadedPrompt ← loadStored hash stored b.attempt .prompt
  let loadedResponse ← loadStored hash stored b.attempt .response
  raiseIf (loadedPrompt ≠ some b.prompt ∨ loadedResponse ≠ b.response)
    (storePersistence "Semantic Gate artifact read-back does not match")
  return stored

def responseMissing (a : SemanticGateAttempt sha) (response : Option (StoredSemanticGateArtifact hash)) :
    Except StoreError Unit := do
  raiseIf (a.status = .succeeded ∧ response = none)
    (storePersistence "succeeded attempt is missing response artifact")
  raiseIf (a.status = .failed ∧ response ≠ none)
    (storePersistence "failed attempt has a response artifact")

def loadAttemptWithArtifacts (hash : ContentHash) (db : ArtifactDb sha) (attemptId : Str) :
    Except StoreError (StoredSemanticGateAttemptArtifacts sha hash) := do
  raiseIf (isAttemptId attemptId = false)
    (storeInvalid "attempt_id must be a v3 Semantic Gate attempt ID")
  let a ← loadAttempt db attemptId
  let prompt ← loadStored hash db a .prompt
  let response ← loadStored hash db a .response
  let prompt ← demand prompt ⟨.notFound, lit "Semantic Gate prompt artifact was not found"⟩
  responseMissing a response
  orStoreError (BundleFields.accept ⟨a, prompt, response⟩)
    (storeInvalid "attempt Artifact bundle is invalid")

end Artifacts

end SemanticGate

end TraceBackedMemory
