import TraceBackedMemory.Publication.Events

namespace TraceBackedMemory

open Text Raising OrderBy Json Replay

namespace Publication

open EventContract (TextHash)

open Migration (keyed)

open Authorization (AuthorizationPolicyBundle AuthorizationRequest AuthorizationDecision fields? dumpsAuthorizationPolicy
  loadsAuthorizationPolicy)

section Faults

inductive StoreFault where
  | conflict | notFound | persistence | attestation | valueError
  deriving DecidableEq

inductive StoreError where
  | contract (e : GateError)
  | store (fault : StoreFault) (message : Str)
  deriving DecidableEq

def conflict (message : String) : StoreError := .store .conflict (lit message)

def notFound (message : String) : StoreError := .store .notFound (lit message)

def persistence (message : String) : StoreError := .store .persistence (lit message)

def contractual {α : Type} (x : Except GateError α) : Except StoreError α := x.mapError .contract

end Faults

section Tables

structure ApprovalRow where
  approval : MemoryRevisionApproval
  policy : Str
  request : Str
  decision : Str
  attestationVerifiedBy : Str
  deriving DecidableEq

structure ActivationRow where
  activation : MemoryRevisionActivation
  policy : Str
  request : Str
  decision : Str
  attestationVerifiedBy : Str
  deriving DecidableEq

structure HeadRow where
  tenantId : Str
  repositoryId : Option Str
  memoryId : Str
  currentRevisionNumber : Nat
  currentRevisionId : Option Str
  currentActivationId : Option Str
  deriving DecidableEq

-- a descriptor column is kept as the record that its text gives back
structure PublicationDb where
  fixes : List FixEvidence
  regressions : List StructuredRegressionEvidence
  proposals : List MemoryRevision
  approvals : List ApprovalRow
  activations : List ActivationRow
  heads : Dict (Str × Str × Str) HeadRow

def PublicationDb.empty : PublicationDb := ⟨[], [], [], [], [], Dict.empty⟩

def descriptorMaxBytes : Nat := 1024 * 1024

def fits (text : Str) : Bool := (encodedBytes text).any (fun n => decide (n ≤ descriptorMaxBytes))

def headKey (tenantId : Str) (repositoryId : Option Str) (memoryId : Str) : Str × Str × Str :=
  (tenantId, repositoryId.getD [], memoryId)

namespace PublicationDb

variable (db : PublicationDb)

def fix? : Str → Option FixEvidence := keyed FixEvidence.evidenceId db.fixes

def regression? : Str → Option StructuredRegressionEvidence := keyed StructuredRegressionEvidence.evidenceId db.regressions

def proposal? : Str → Option MemoryRevision := keyed MemoryRevision.revisionId db.proposals

def approval? : Str → Option ApprovalRow := keyed (fun row => row.approval.approvalId) db.approvals

def activation? : Str → Option ActivationRow := keyed (fun row => row.activation.activationId) db.activations

def activationOf? : Str → Option ActivationRow := keyed (fun row => row.activation.revisionId) db.activations

def setHead (key : Str × Str × Str) (row : HeadRow) : PublicationDb := { db with heads := db.heads.set key row }

end PublicationDb

end Tables

section Proposals

structure Proposal where
  revision : MemoryRevision
  fixEvidence : Option FixEvidence
  regressionEvidence : List StructuredRegressionEvidence
  deriving DecidableEq

structure StoreResult where
  revisionId : Str
  revisionInserted : Bool
  fixEvidenceInserted : Bool
  regressionEvidenceInserted : Nat
  deriving DecidableEq

variable (codec : FloatCodec) (db : PublicationDb)

def historyConflict : StoreError := conflict "proposal conflicts with immutable revision history"

def putFix (e : FixEvidence) : Except StoreError (PublicationDb × Bool) :=
  match db.fix? e.evidenceId with
  | some stored => do
    raiseIf (stored ≠ e) (conflict "fix evidence ID has conflicting immutable content")
    return (db, false)
  | none => do
    raiseIf (fits (canonicalText codec.repr e.toDict) = false) historyConflict
    return ({ db with fixes := db.fixes ++ [e] }, true)

def putRegression (s : PublicationDb × Nat) (e : StructuredRegressionEvidence) :
    Except StoreError (PublicationDb × Nat) :=
  match s.1.regression? e.evidenceId with
  | some stored => do
    raiseIf (stored ≠ e) (conflict "regression evidence ID has conflicting immutable content")
    return s
  | none => do
    raiseIf (fits (canonicalText codec.repr e.toDict) = false) historyConflict
    return ({ s.1 with regressions := s.1.regressions ++ [e] }, s.2 + 1)

def slotTaken (r : MemoryRevision) : Prop :=
  ∃ p ∈ db.proposals, p.memoryId = r.memoryId ∧ p.revisionNumber = r.revisionNumber

instance (r : MemoryRevision) : Decidable (slotTaken db r) := inferInstanceAs (Decidable (∃ p ∈ db.proposals, _))

def parentContinues (r : MemoryRevision) : Prop :=
  if r.revisionNumber = 1 then r.previousRevisionId = none
  else ∃ p ∈ db.proposals, some p.revisionId = r.previousRevisionId ∧ p.memoryId = r.memoryId ∧
    p.revisionNumber + 1 = r.revisionNumber

instance (r : MemoryRevision) : Decidable (parentContinues db r) := by
  unfold parentContinues
  infer_instance

def putRevision (r : MemoryRevision) : Except StoreError PublicationDb := do
  raiseIf (slotTaken db r) historyConflict
  raiseIf (¬parentContinues db r) historyConflict
  raiseIf (∃ id ∈ r.fixEvidenceId, db.fix? id = none) historyConflict
  raiseIf (fits (canonicalText codec.repr r.toDict) = false) historyConflict
  return { db with proposals := db.proposals ++ [r.canonical] }

def loadFix (r : MemoryRevision) : Except StoreError (Option FixEvidence) :=
  match r.fixEvidenceId with
  | none => .ok none
  | some id => do
    let fix ← demand (db.fix? id) (persistence "stored fix evidence reference is missing")
    return some fix

def loadBundle (r : MemoryRevision) : Except StoreError Proposal := do
  let fix ← loadFix db r
  let regressions ← collect (fun id => demand (db.regression? id)
    (persistence "stored regression evidence reference is missing")) r.regressionEvidenceIds
  (verifyMemoryRevisionEvidenceBundle r (keyed FixEvidence.evidenceId fix.toList)
    (keyed StructuredRegressionEvidence.evidenceId regressions)).mapError
      (fun _ => persistence "stored proposal bundle failed validation")
  return ⟨r, fix, regressions⟩

def bundleConflict : StoreError := conflict "stored proposal bundle does not match exact input"

def insertProposal (c : Proposal) : Except StoreError (PublicationDb × StoreResult) := do
  let (withFix, fixInserted) ← c.fixEvidence.elim (.ok (db, false)) (fun e => putFix codec db e)
  let (withEvidence, inserted) ← accumulate (putRegression codec) (withFix, 0) c.regressionEvidence
  let written ← putRevision codec withEvidence c.revision
  let row ← demand (written.proposal? c.revision.revisionId) (notFound "memory revision proposal was not found")
  let stored ← loadBundle written row
  raiseIf (stored ≠ c) bundleConflict
  return (written, ⟨c.revision.revisionId, true, fixInserted, inserted⟩)

def checkInput (c : Proposal) : Except StoreError Unit := do
  raiseIf (¬(c.regressionEvidence.map StructuredRegressionEvidence.evidenceId).Nodup)
    (.store .valueError (lit "regression_evidence must not contain duplicates"))
  raiseIf (Migration.sortedStrings (c.regressionEvidence.map StructuredRegressionEvidence.evidenceId) ≠
      c.revision.regressionEvidenceIds)
    (.store .valueError (lit "regression_evidence must exactly match revision"))
  contractual (verifyMemoryRevisionEvidenceBundle c.revision (keyed FixEvidence.evidenceId c.fixEvidence.toList)
    (keyed StructuredRegressionEvidence.evidenceId c.regressionEvidence))

-- the items in the order in which the revision names them
def Proposal.ordered (c : Proposal) : Proposal :=
  { c with regressionEvidence := orderBy StructuredRegressionEvidence.evidenceId c.regressionEvidence }

def storeProposal (c : Proposal) : Except StoreError (PublicationDb × StoreResult) := do
  checkInput c
  match db.proposal? c.revision.revisionId with
  | some row => do
    let stored ← loadBundle db row
    raiseIf (stored ≠ c.ordered) bundleConflict
    return (db, ⟨c.revision.revisionId, false, false, 0⟩)
  | none => insertProposal codec db c.ordered

end Proposals

section Publications

variable (codec : FloatCodec) (db : PublicationDb)

structure Texts where
  policy : Str
  request : Str
  decision : Str
  deriving DecidableEq

def decisionDict (d : AuthorizationDecision) : Except GateError Json := do
  let content ← d.content
  return .obj ((lit "authorization_event_id", .str d.authorizationEventId) :: (fields? content).getD [])

def Grant.texts (g : Grant) : Except GateError Texts := do
  let policy ← dumpsAuthorizationPolicy codec g.policy
  let request ← g.request.toDict
  let decision ← decisionDict g.decision
  return ⟨policy, canonicalText codec.repr request, canonicalText codec.repr decision⟩

def Texts.fit (t : Texts) : Bool := fits t.policy && fits t.request && fits t.decision

def requireStoredRevision (r : MemoryRevision) (message : String) : Except StoreError Unit :=
  raiseIf (db.proposal? r.revisionId ≠ some r.canonical) (notFound message)

def requireStoredFix (s : Submission) (id : Str) : Except StoreError Unit := do
  let fix ← demand (s.fixes id) (notFound "exact fix evidence is not supplied")
  raiseIf (db.fix? id ≠ some fix) (notFound "exact fix evidence is not stored")

def requireStoredRegression (s : Submission) (id : Str) : Except StoreError Unit := do
  let e ← demand (s.regressions id) (notFound "exact regression evidence is not supplied")
  raiseIf (db.regression? id ≠ some e) (notFound "exact regression evidence is not stored")

def requireProposalBundle (s : Submission) : Except StoreError Unit := do
  requireStoredRevision db s.revision "exact memory revision proposal is not stored"
  s.previousRevision.elim (.ok ())
    (fun p => requireStoredRevision db p "exact previous memory revision proposal is not stored")
  s.revision.fixEvidenceId.elim (.ok ()) (requireStoredFix db s)
  checkEach (requireStoredRegression db s) s.revision.regressionEvidenceIds

-- the texts of a row read back: the policy through its bounded reader, the rest as written
def readTexts (policy verifier : Str) (message : String) : Except StoreError Unit := do
  let _ ← (loadsAuthorizationPolicy codec (.text policy)).mapError (fun _ => persistence message)
  raiseIf (isBlank verifier = true ∨ memoryIdMaxChars < verifier.length) (persistence message)

def loadApprovalRow (approvalId : Str) : Except StoreError ApprovalRow := do
  let row ← demand (db.approval? approvalId) (notFound "memory revision approval was not found")
  readTexts codec row.policy row.attestationVerifiedBy "stored memory revision approval is invalid"
  return row

def loadActivationRow (activationId : Str) : Except StoreError ActivationRow := do
  let row ← demand (db.activation? activationId) (notFound "memory revision activation was not found")
  readTexts codec row.policy row.attestationVerifiedBy "stored memory revision activation is invalid"
  return row

-- the client's verifier: its identity, and whether it vouches for the event's attestation
structure Verifier where
  verifierId : Str
  vouches : Bool
  deriving DecidableEq

def verifyAttestation (v : Verifier) (kind : String) : Except StoreError Unit :=
  raiseIf (v.vouches = false) (.store .attestation (lit kind ++ lit " attestation was not verified"))

def approvalConflict : StoreError := conflict "approval conflicts with durable publication state"

def putApproval (row : ApprovalRow) : Except StoreError (PublicationDb × Bool) :=
  match db.approval? row.approval.approvalId with
  | some stored => do
    raiseIf (stored ≠ row) (conflict "approval identity conflict")
    return (db, false)
  | none => do
    raiseIf (∃ other ∈ db.approvals, other.approval.revisionId = row.approval.revisionId) approvalConflict
    raiseIf (¬∃ p ∈ db.proposals, p.revisionId = row.approval.revisionId ∧ p.memoryId = row.approval.memoryId ∧
      p.revisionNumber = row.approval.revisionNumber) approvalConflict
    raiseIf (fits (canonicalText codec.repr row.approval.toDict) = false ∨
      Texts.fit ⟨row.policy, row.request, row.decision⟩ = false) approvalConflict
    return ({ db with approvals := db.approvals ++ [row] }, true)

structure ApprovalCall where
  submission : Submission
  grant : Grant
  event : ApprovalEvent
  verifier : Verifier

structure ApprovalResult where
  approval : MemoryRevisionApproval
  inserted : Bool
  attestationVerifiedBy : Str
  deriving DecidableEq

variable (hash : TextHash) (bytes : ContentHash)

def appendApproval (c : ApprovalCall) : Except StoreError (PublicationDb × ApprovalResult) := do
  let approval ← contractual (approveMemoryRevision hash bytes codec c.submission c.grant c.event)
  verifyAttestation c.verifier "approval"
  let texts ← contractual (c.grant.texts codec)
  let row : ApprovalRow := ⟨approval, texts.policy, texts.request, texts.decision, c.verifier.verifierId⟩
  requireProposalBundle db c.submission
  let (written, inserted) ← putApproval codec db row
  let retained ← loadApprovalRow codec written approval.approvalId
  raiseIf (retained ≠ row) (persistence "approval read-back mismatch")
  return (written, ⟨approval, inserted, c.verifier.verifierId⟩)

end Publications

section Heads

variable (codec : FloatCodec) (db : PublicationDb)

structure Head where
  tenantId : Str
  repositoryId : Option Str
  memoryId : Str
  currentRevisionNumber : Nat
  currentRevisionId : Str
  currentActivationId : Str
  deriving DecidableEq

def selectHead (key : Str × Str × Str) : Except StoreError (Option Head) :=
  match db.heads.get? key with
  | none => .ok none
  | some row =>
    if row.currentRevisionNumber = 0 then do
      raiseIf (row.currentRevisionId ≠ none ∨ row.currentActivationId ≠ none)
        (persistence "empty activation head is inconsistent")
      return none
    else do
      let revisionId ← demand row.currentRevisionId (persistence "stored activation head is incomplete")
      let activationId ← demand row.currentActivationId (persistence "stored activation head is incomplete")
      let stored ← loadActivationRow codec db activationId
      let a := stored.activation
      raiseIf (a.revisionId ≠ revisionId ∨ a.revisionNumber ≠ row.currentRevisionNumber ∨ a.tenantId ≠ row.tenantId ∨
          a.repositoryId ≠ row.repositoryId ∨ a.memoryId ≠ row.memoryId)
        (persistence "stored activation head does not match activation")
      return some ⟨row.tenantId, row.repositoryId, row.memoryId, row.currentRevisionNumber, revisionId, activationId⟩

def openHead (a : MemoryRevisionApproval) : PublicationDb :=
  match db.heads.get? (headKey a.tenantId a.repositoryId a.memoryId) with
  | some _ => db
  | none =>
    db.setHead (headKey a.tenantId a.repositoryId a.memoryId) ⟨a.tenantId, a.repositoryId, a.memoryId, 0, none, none⟩

def activationConflict : StoreError := conflict "activation conflicts with durable publication state"

def previousOf (existing : MemoryRevisionActivation) : Except StoreError (Option MemoryRevisionActivation) :=
  match existing.previousActivationId with
  | none => .ok none
  | some id => do
    let row ← loadActivationRow codec db id
    return some row.activation

-- the activation that the new one follows, and the tables with the memory's head row in place
def predecessor (r : MemoryRevision) (a : MemoryRevisionApproval) :
    Except StoreError (PublicationDb × Option MemoryRevisionActivation) :=
  match db.activationOf? r.revisionId with
  | some existing => do
    let row ← loadActivationRow codec db existing.activation.activationId
    let previous ← previousOf codec db row.activation
    return (db, previous)
  | none => do
    let head ← selectHead codec db (headKey a.tenantId a.repositoryId a.memoryId)
    match head with
    | none => do
      raiseIf (r.revisionNumber ≠ 1) (conflict "activation has no durable predecessor")
      return (openHead db a, none)
    | some h => do
      raiseIf (h.currentRevisionNumber + 1 ≠ r.revisionNumber ∨ some h.currentRevisionId ≠ r.previousRevisionId)
        (conflict "activation durable head is stale")
      let row ← loadActivationRow codec db h.currentActivationId
      return (db, some row.activation)

def activationKey (a : MemoryRevisionActivation) : Str × Str × Str := headKey a.tenantId a.repositoryId a.memoryId

-- the unique columns and the trigger that guards the insertion of an activation
def insertable (a : MemoryRevisionActivation) : Prop :=
  (∀ other ∈ db.activations, other.activation.approvalId ≠ a.approvalId ∧ other.activation.revisionId ≠ a.revisionId ∧
    ¬(activationKey other.activation = activationKey a ∧ other.activation.revisionNumber = a.revisionNumber)) ∧
  (∃ row ∈ db.approvals, row.approval.approvalId = a.approvalId ∧ row.approval.revisionId = a.revisionId ∧
    headKey row.approval.tenantId row.approval.repositoryId row.approval.memoryId = activationKey a ∧
    row.approval.revisionNumber = a.revisionNumber) ∧
  (∀ id ∈ a.previousActivationId, db.activation? id ≠ none) ∧
  if a.revisionNumber = 1 then a.previousActivationId = none
  else ∃ head ∈ db.heads.get? (activationKey a), head.currentRevisionNumber + 1 = a.revisionNumber ∧
    head.currentActivationId = a.previousActivationId ∧ a.previousActivationId ≠ none

instance (a : MemoryRevisionActivation) : Decidable (insertable db a) := by
  unfold insertable
  infer_instance

def putActivation (row : ActivationRow) : Except StoreError (PublicationDb × Bool) :=
  match db.activation? row.activation.activationId with
  | some stored => do
    raiseIf (stored ≠ row) (conflict "activation identity conflict")
    return (db, false)
  | none => do
    raiseIf (¬insertable db row.activation) activationConflict
    raiseIf (fits (canonicalText codec.repr row.activation.toDict) = false ∨
      Texts.fit ⟨row.policy, row.request, row.decision⟩ = false) activationConflict
    return ({ db with activations := db.activations ++ [row] }, true)

def advanceHead (a : MemoryRevisionActivation) : Except StoreError PublicationDb := do
  let row ← demand (db.heads.get? (activationKey a)) (conflict "activation lost durable head compare-and-swap")
  raiseIf (row.currentRevisionNumber + 1 ≠ a.revisionNumber ∨ row.currentActivationId ≠ a.previousActivationId)
    (conflict "activation lost durable head compare-and-swap")
  return db.setHead (activationKey a)
    { row with currentRevisionNumber := a.revisionNumber, currentRevisionId := some a.revisionId,
               currentActivationId := some a.activationId }

def requireCurrent (a : MemoryRevisionActivation) : Except StoreError Unit := do
  let head ← selectHead codec db (activationKey a)
  raiseIf (head.map (fun h => (h.currentActivationId, h.currentRevisionId, h.currentRevisionNumber)) ≠
      some (a.activationId, a.revisionId, a.revisionNumber))
    (conflict "activation is not the durable current head")

end Heads

section Activation

variable (codec : FloatCodec) (db : PublicationDb) (hash : TextHash) (bytes : ContentHash)

structure ActivationCall where
  submission : Submission
  approval : MemoryRevisionApproval
  approvalGrant : Grant
  grant : Grant
  event : ActivationEvent
  verifier : Verifier

structure ActivationResult where
  activation : MemoryRevisionActivation
  inserted : Bool
  attestationVerifiedBy : Str
  deriving DecidableEq

def writeActivation (row : ActivationRow) : Except StoreError (PublicationDb × Bool) := do
  let (written, inserted) ← putActivation codec db row
  if inserted then do
    let advanced ← advanceHead written row.activation
    requireCurrent codec advanced row.activation
    return (advanced, true)
  else return (written, false)

def appendActivation (c : ActivationCall) : Except StoreError (PublicationDb × ActivationResult) := do
  verifyAttestation c.verifier "activation"
  requireProposalBundle db c.submission
  let stored ← loadApprovalRow codec db c.approval.approvalId
  let approvalTexts ← contractual (c.approvalGrant.texts codec)
  raiseIf (stored.approval ≠ c.approval ∨ (⟨stored.policy, stored.request, stored.decision⟩ : Texts) ≠ approvalTexts)
    (conflict "activation approval provenance mismatch")
  let (opened, previous) ← predecessor codec db c.submission.revision c.approval
  let activation ← contractual
    (activateMemoryRevision hash bytes codec c.submission c.approval c.approvalGrant previous c.grant c.event)
  let texts ← contractual (c.grant.texts codec)
  let row : ActivationRow := ⟨activation, texts.policy, texts.request, texts.decision, c.verifier.verifierId⟩
  let (written, inserted) ← writeActivation codec opened row
  let retained ← loadActivationRow codec written activation.activationId
  raiseIf (retained ≠ row) (persistence "activation read-back mismatch")
  return (written, ⟨activation, inserted, c.verifier.verifierId⟩)

end Activation

end Publication

end TraceBackedMemory
