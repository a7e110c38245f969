import TraceBackedMemory.Store.Lifecycle

namespace TraceBackedMemory

open Text Raising

def retrievalQueryMaxChars : Nat := 32000

def semanticScoresMaxItems : Nat := 100000

def pendingGateRequestMaxItems : Nat := 1000

def gateRequestMaxCandidates : Nat := 1000

def pendingGateRequestMaxCandidateIds : Nat := 100000

def finalizedGateRequestMaxItems : Nat := 10000

def commitAncestryMaxAnchors : Nat := 1000

abbrev SessionId := Uuid

structure Store where
  traces : Dict Str Trace
  traceIdsByRunId : Dict Str (List Str)
  failureCases : Dict Str FailureCase
  lessons : Dict Str Lesson
  projectPolicies : Dict Str ProjectPolicy
  usageLogs : List MemoryUsageLog
  usageLogIndexes : Dict Str Nat
  nextDecisionNumber : Nat
  pendingGateRequests : Dict Str MemoryGateRequest
  finalizedGateRequestIds : List Str
  finalizedGateRequestOrder : List Str
  storeToken : Nat
  gateRequestSessionId : SessionId
  nextGateRequestNumber : Nat

def Store.fresh (token : Nat) (session : SessionId) : Store where
  traces := Dict.empty
  traceIdsByRunId := Dict.empty
  failureCases := Dict.empty
  lessons := Dict.empty
  projectPolicies := Dict.empty
  usageLogs := []
  usageLogIndexes := Dict.empty
  nextDecisionNumber := 1
  pendingGateRequests := Dict.empty
  finalizedGateRequestIds := []
  finalizedGateRequestOrder := []
  storeToken := token
  gateRequestSessionId := session
  nextGateRequestNumber := 1

section Lookups

def storedRecord {α : Type} (records : Dict Str α) (recordId recordLabel : Str) : Except Exn α := do
  raiseIf (recordId = []) (.valueError (recordLabel ++ lit " ID must be a non-empty string"))
  raiseIf (memoryIdMaxChars < recordId.length)
    (.valueError (recordLabel ++ lit " ID must be at most " ++ decimal memoryIdMaxChars ++
      lit " characters"))
  demand (records.get? recordId)
    (.valueError (lit "unknown " ++ recordLabel ++ lit " ID: " ++ recordId))

def Store.memoryKnown (s : Store) (memoryId : Str) : Bool :=
  s.failureCases.contains memoryId || s.lessons.contains memoryId ||
    s.projectPolicies.contains memoryId

def Store.memoryItemFromLesson (s : Store) (l : Lesson) : Except Exn MemoryItem := do
  let sourceCase ← demand (s.failureCases.get? l.sourceCaseId) (.keyError l.sourceCaseId)
  let sourceTrace ← demand (s.traces.get? sourceCase.sourceTraceId)
    (.keyError sourceCase.sourceTraceId)
  TraceBackedMemory.memoryItemFromLesson l sourceTrace sourceCase

def Store.memoryItem? (py : Python) (s : Store) (memoryId : Str) :
    Except Exn (Option MemoryItem) :=
  match s.lessons.get? memoryId with
  | some l => some <$> s.memoryItemFromLesson l
  | none =>
    match s.projectPolicies.get? memoryId with
    | some p => some <$> memoryItemFromProjectPolicy py p
    | none =>
      match s.failureCases.get? memoryId with
      | some c => do
        let t ← demand (s.traces.get? c.sourceTraceId) (.keyError c.sourceTraceId)
        some <$> memoryItemFromFailureCaseForAudit c t
      | none => .ok none

def Store.memoryItems (py : Python) (s : Store) (memoryIds : List Str) :
    Except Exn (List MemoryItem) := do
  let items ← collect (s.memoryItem? py) memoryIds
  let unknownIds := memoryIds.filter (fun i => !s.memoryKnown i)
  refuseListed "usage log references unknown memory IDs: " (sortedStrs unknownIds)
  return items.filterMap id

def Store.traceForRunId (s : Store) (runId : Str) : Except Exn Trace := do
  validateRequiredString runId (lit "run_id") (lit "trace lookup requires") (some memoryIdMaxChars)
  match (s.traceIdsByRunId.get? runId).getD [] with
  | [] => .error (.valueError (lit "unknown run_id: " ++ runId))
  | [traceId] => demand (s.traces.get? traceId) (.keyError traceId)
  | _ => .error (.valueError (lit "run_id does not resolve to one trace: " ++ runId))

def Store.usageLogIndex (s : Store) (decisionId : Str) : Except Exn Nat :=
  demand (s.usageLogIndexes.get? decisionId)
    (.valueError (lit "unknown decision_id: " ++ decisionId))

def Store.usageLogAt (s : Store) (index : Nat) : Except Exn MemoryUsageLog :=
  demand (s.usageLogs[index]?) .indexError

end Lookups

section Retrieval

def tokenRuns (py : Python) (acc : Str) : Str → List Str
  | [] => if acc.isEmpty then [] else [acc.reverse]
  | c :: s =>
    if py.isWordCharacter c then tokenRuns py (c :: acc) s
    else (if acc.isEmpty then [] else [acc.reverse]) ++ tokenRuns py [] s

def bigrams : Str → List Str
  | a :: b :: s => [a, b] :: bigrams (b :: s)
  | _ => []

def tokens (py : Python) (text : Str) : List Str :=
  ((tokenRuns py [] (py.casefold text)).filter (fun t => decide (2 ≤ t.length))).flatMap
    (fun t => t :: if t.any (fun c => decide (127 < c.val)) then bigrams t else [])

def memoryTokens (py : Python) (m : MemoryItem) : List Str :=
  tokens py (m.memoryId ++ lit " " ++ m.text ++ lit " " ++
    joinWith (lit " ") (m.scope.entries.map (fun f => f.1 ++ lit " " ++ f.2)))

structure Retrieval where
  query : Option Str := none
  semanticScores : Option (Dict Str Number) := none
  maxCandidates : Option Int := none
  minimumScore : Option Number := none
  commitAncestry : Option CommitAncestryEvidence := none

def validateSemanticScore (py : Python) (f : Str × Number) : Except Exn Unit := do
  raiseIf (f.1 = []) (valueError "semantic score memory IDs must be non-empty strings")
  raiseIf (memoryIdMaxChars < f.1.length)
    (.valueError (lit "semantic score memory IDs must be at most " ++ decimal memoryIdMaxChars ++
      lit " characters"))
  raiseIf (f.2.isFinite = false)
    (.valueError (lit "semantic score for " ++ py.repr f.1 ++ lit " must be a finite number"))

def validatedSemanticScores (py : Python) (r : Retrieval) (stored : Str → Bool) :
    Except Exn (Option (Dict Str Number × Nat)) :=
  match r.semanticScores with
  | none => do
    raiseIf (r.maxCandidates ≠ none) (valueError "max_candidates requires semantic_scores")
    raiseIf (r.minimumScore ≠ none) (valueError "minimum_score requires semantic_scores")
    return none
  | some scores => do
    raiseIf (semanticScoresMaxItems < scores.size)
      (.valueError (lit "semantic_scores accepts at most " ++ decimal semanticScoresMaxItems ++
        lit " items"))
    raiseIf (r.query ≠ none) (valueError "query and semantic_scores are mutually exclusive")
    let limit ← demand r.maxCandidates
      (valueError "max_candidates is required with semantic_scores")
    raiseIf (¬(1 ≤ limit ∧ limit ≤ llmGateMaxCandidates))
      (.valueError (lit "max_candidates must be an integer from 1 through " ++
        decimal llmGateMaxCandidates))
    raiseIf (r.minimumScore.elim false (fun n => !n.isFinite) = true)
      (valueError "minimum_score must be a finite number")
    checkEach (validateSemanticScore py) scores.entries
    refuseListed "semantic_scores references unknown memory IDs: "
      (sortedStrs (scores.keys.filter (fun k => !stored k)))
    return some (scores, limit.toNat)

def validateCommitRelation (relations : Dict Str Bool) (relation : Str × Bool) :
    Except Exn (Dict Str Bool) := do
  validateRequiredString relation.1 (lit "anchor commit") (lit "commit ancestry relations require")
    (some metadataValueMaxChars)
  raiseIf (relations.contains relation.1 = true)
    (.valueError (lit "duplicate commit ancestry relation: " ++ relation.1))
  return relations.set relation.1 relation.2

def validatedCommitAncestry (c : MemoryContext) (evidence : Option CommitAncestryEvidence) :
    Except Exn (Option (Dict Str Bool)) :=
  match evidence with
  | none => .ok none
  | some e => do
    validateRequiredString e.currentCommitSha (lit "current_commit_sha")
      (lit "commit ancestry evidence requires") (some metadataValueMaxChars)
    raiseIf (e.currentCommitSha ≠ c.commitSha)
      (valueError "commit ancestry current_commit_sha does not match context commit_sha")
    raiseIf (commitAncestryMaxAnchors < e.commitRelations.length)
      (.valueError (lit "commit ancestry accepts at most " ++ decimal commitAncestryMaxAnchors ++
        lit " relations"))
    some <$> accumulate validateCommitRelation Dict.empty e.commitRelations

inductive MemorySource where
  | lesson (l : Lesson)
  | policy (p : ProjectPolicy)
  | failureCase (c : FailureCase)

def Store.metadataSources (s : Store) (c : MemoryContext) : List MemorySource :=
  s.lessons.values.map .lesson ++ s.projectPolicies.values.map .policy ++
    if c.mode = .debug ∨ c.mode = .repair then s.failureCases.values.map .failureCase else []

def Store.metadataCandidate (py : Python) (s : Store) (c : MemoryContext) :
    MemorySource → Except Exn (Option MemoryItem)
  | .lesson l =>
    if hasMetadataMatch l.scope c then some <$> s.memoryItemFromLesson l else .ok none
  | .policy p =>
    if hasMetadataMatch p.scope c then some <$> memoryItemFromProjectPolicy py p else .ok none
  | .failureCase fc =>
    match s.traces.get? fc.sourceTraceId with
    | none => .ok none
    | some t =>
      if fc.status ≠ .verified ∨ fc.regressionPassed = false then .ok none
      else do
        let m ← memoryItemFromFailureCase fc t
        if c.tool.elim false (fun name => decide (name ∉ traceToolNames t)) then return none
        else if hasMetadataMatch m.scope c then return some m
        else return none

def Store.commitAnchor (s : Store) (memoryId : Str) : Except Exn (Option Str) :=
  match s.lessons.get? memoryId with
  | some l => do
    let c ← demand (s.failureCases.get? l.sourceCaseId) (.keyError l.sourceCaseId)
    raiseIf (missing c.fixCommitSha = true)
      (.valueError (lit "lesson source case lacks fix_commit_sha: " ++ memoryId))
    return c.fixCommitSha
  | none => .ok ((s.failureCases.get? memoryId).map FailureCase.commitSha)

def Store.keptByAncestry (s : Store) (relations : Option (Dict Str Bool)) (m : MemoryItem) :
    Except Exn Bool :=
  match relations with
  | none => .ok true
  | some r => do
    match ← s.commitAnchor m.memoryId with
    | none => return true
    | some anchor =>
      demand (r.get? anchor)
        (.valueError (lit "commit ancestry evidence is missing anchors: " ++ anchor))

def Store.candidateStep (py : Python) (s : Store) (c : MemoryContext)
    (relations : Option (Dict Str Bool)) (keep : MemoryItem → Bool) (resultLimit : Option Nat)
    (selected : List MemoryItem) (source : MemorySource) : Except Exn (List MemoryItem) := do
  match ← s.metadataCandidate py c source with
  | none => return selected
  | some m =>
    if (← s.keptByAncestry relations m) && keep m then
      raiseIf (exceeds resultLimit (selected.length + 1) = true)
        (.valueError (lit "gate request candidate limit exceeded: " ++
          decimal (selected.length + 1) ++ lit " > " ++ decimal (resultLimit.getD 0)))
      return selected ++ [m]
    else return selected

def scoreBefore (scores : Dict Str Number) (a b : MemoryItem) : Prop :=
  ((scores.get? b.memoryId).getD .zero).lt ((scores.get? a.memoryId).getD .zero) = true ∨
    (((scores.get? b.memoryId).getD .zero).scaled = ((scores.get? a.memoryId).getD .zero).scaled ∧
      a.memoryId ≤ b.memoryId)

instance (scores : Dict Str Number) : DecidableRel (scoreBefore scores) := fun _ _ =>
  inferInstanceAs (Decidable (_ ∨ _))

def scoreKept (scores : Dict Str Number) (minimumScore : Option Number) (m : MemoryItem) : Bool :=
  match scores.get? m.memoryId with
  | none => false
  | some score => minimumScore.elim true (fun n => n.le score)

def queryKept (py : Python) (queryTokens : List Str) (m : MemoryItem) : Bool :=
  queryTokens.isEmpty || queryTokens.any (fun t => decide (t ∈ memoryTokens py m))

def Store.candidateMemories (py : Python) (s : Store) (c : MemoryContext) (r : Retrieval)
    (resultLimit : Nat) : Except Exn (List MemoryItem) := do
  validateMemoryContext c
  raiseIf (r.query.elim false (fun q => decide (retrievalQueryMaxChars < q.length)) = true)
    (.valueError (lit "query must be at most " ++ decimal retrievalQueryMaxChars ++
      lit " characters"))
  let scores ← validatedSemanticScores py r s.memoryKnown
  let relations ← validatedCommitAncestry c r.commitAncestry
  match scores with
  | some (scores, limit) =>
    let kept ← accumulate
      (s.candidateStep py c relations (scoreKept scores r.minimumScore) none) []
      (s.metadataSources c)
    return (kept.insertionSort (scoreBefore scores)).take limit
  | none =>
    let kept ← accumulate
      (s.candidateStep py c relations (queryKept py (tokens py (r.query.getD [])))
        (some resultLimit)) []
      (s.metadataSources c)
    return kept.insertionSort (fun a b => a.memoryId ≤ b.memoryId)

end Retrieval

end TraceBackedMemory
