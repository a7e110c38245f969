import TraceBackedMemory.Store.Snapshot

namespace TraceBackedMemory

open Text Raising

inductive Operation where
  | recordTrace (t : Trace)
  | completeTrace (traceId : Str) (evalResult : EvalResult) (a : CompletionArguments)
  | completeMemoryRun (traceId decisionId : Str) (evalResult : EvalResult)
      (memoryCausedFailure : Bool) (a : CompletionArguments)
  | completeMemoryRuns (results : List MemoryRunResult)
  | recoverMemoryRun (decisionId : Str) (memoryCausedFailure : Option Bool)
      (a : CompletionArguments)
  | recoverMemoryRuns (decisionIds : List Str) (attributions : Dict Str Bool)
  | recoverReadyMemoryRuns
  | addFailureCase (c : FailureCase)
  | reviewFailureCase (caseId : Str) (r : CaseReview)
  | verifyFailureCase (caseId : Str) (v : CaseVerification)
  | obsoleteFailureCase (caseId : Str)
  | addLesson (l : Lesson)
  | obsoleteLesson (lessonId : Str)
  | addProjectPolicy (p : ProjectPolicy)
  | obsoleteProjectPolicy (policyId : Str)
  | obsoleteMemories (requests : List MemoryObsolescenceRequest)
  | loadLessonsYaml (source : Except Exn Str) (maxLessons : Option Nat)
  | prepareMemory (a : PrepareArguments)
  | finalizeMemory (a : FinalizeArguments)
  | cancelMemoryRequest (r : MemoryGateRequest)
  | logDecision (a : LogArguments)
  | recordDecisionOutcome (decisionId : Str) (evalResult : EvalResult)
      (memoryCausedFailure : Bool)

inductive Reply where
  | done
  | trace (t : Trace)
  | completions (l : List MemoryRunCompletion)
  | failureCase (c : FailureCase)
  | lessons (l : List Lesson)
  | projectPolicy (p : ProjectPolicy)
  | memories (l : List Memory)
  | request (r : MemoryGateRequest)
  | gated (g : GatedMemoryResult)
  | usageLog (log : MemoryUsageLog)

def exec (py : Python) (env : Env) : Operation → Op Reply
  | .recordTrace t => Reply.trace <$> recordTrace py env t
  | .completeTrace i r a => Reply.trace <$> completeTrace py i r a
  | .completeMemoryRun i d r b a =>
    (fun c => Reply.completions [c]) <$> completeMemoryRun py i d r b a
  | .completeMemoryRuns l => Reply.completions <$> completeMemoryRuns py l
  | .recoverMemoryRun d b a => (fun c => Reply.completions [c]) <$> recoverMemoryRun py d b a
  | .recoverMemoryRuns l b => Reply.completions <$> recoverMemoryRuns py l b
  | .recoverReadyMemoryRuns => Reply.completions <$> recoverReadyMemoryRuns py
  | .addFailureCase c => Reply.failureCase <$> addFailureCase c
  | .reviewFailureCase i r => Reply.failureCase <$> reviewFailureCase env i r
  | .verifyFailureCase i v => Reply.failureCase <$> verifyFailureCase i v
  | .obsoleteFailureCase i => Reply.failureCase <$> obsoleteFailureCase py i
  | .addLesson l => (fun l => Reply.lessons [l]) <$> addLesson py l
  | .obsoleteLesson i => (fun l => Reply.lessons [l]) <$> obsoleteLesson py i
  | .addProjectPolicy p => Reply.projectPolicy <$> addProjectPolicy py p
  | .obsoleteProjectPolicy i => Reply.projectPolicy <$> obsoleteProjectPolicy py i
  | .obsoleteMemories l => Reply.memories <$> obsoleteMemories py l
  | .loadLessonsYaml t n => Reply.lessons <$> loadLessonsYaml py t n
  | .prepareMemory a => Reply.request <$> prepareMemory py a
  | .finalizeMemory a => Reply.gated <$> finalizeMemory py env a
  | .cancelMemoryRequest r => (fun _ => Reply.done) <$> cancelMemoryRequest r
  | .logDecision a => Reply.usageLog <$> logDecision py env a
  | .recordDecisionOutcome d r b => Reply.usageLog <$> recordDecisionOutcome d r b

def stepStore (py : Python) (s : Store) (c : Env × Operation) : Store :=
  finalState (exec py c.1 c.2 s)

def runStore (py : Python) (s : Store) (calls : List (Env × Operation)) : Store :=
  calls.foldl (stepStore py) s

inductive Reachable (py : Python) : Store → Prop where
  | fresh (token : Nat) (session : SessionId) : Reachable py (Store.fresh token session)
  | loaded {s : Store} (env : Env) (token : Nat) (session : SessionId) (limits : SnapshotLimits)
      (data : Snapshot) (h : fromSnapshot py env token session limits data = .ok s) : Reachable py s
  | step {s : Store} (h : Reachable py s) (env : Env) (op : Operation) :
      Reachable py (stepStore py s (env, op))

theorem Reachable.run {py : Python} {s : Store} (h : Reachable py s)
    (calls : List (Env × Operation)) : Reachable py (runStore py s calls) := by
  induction calls generalizing s with
  | nil => exact h
  | cons c calls ih => exact ih (h.step c.1 c.2)

theorem Reachable.ok {py : Python} {s s' : Store} (h : Reachable py s) {env : Env} {op : Operation}
    {r : Reply} (hr : exec py env op s = .ok r s') : Reachable py s' := by
  have hstep := h.step env op
  simp only [stepStore, hr, finalState] at hstep
  exact hstep

section Sample

def asciiPython : Python where
  casefold := List.map (fun c => if 65 ≤ c.val ∧ c.val ≤ 90 then c + 32 else c)
  isWordCharacter c := decide ((48 ≤ c.val ∧ c.val ≤ 57) ∨ (65 ≤ c.val ∧ c.val ≤ 90) ∨ c.val = 95 ∨
    (97 ≤ c.val ∧ c.val ≤ 122))
  isIdentifier s := s.all (fun c => decide ((97 ≤ c.val ∧ c.val ≤ 122) ∨ c.val = 95))
  repr s := lit "'" ++ s ++ lit "'"
  floatRepr _ := lit "1.0"
  parseFloat _ := none
  jsonLoads _ := .error (lit "Expecting value: line 1 column 1 (char 0)")

def sampleSession : SessionId where
  text := lit "0123456789abcdef0123456789abcdef"
  length_text := by decide
  hex_text := by decide

def sampleEnv : Env where
  now := lit "2024-05-01T12:00:00Z"

def failedTrace : Trace where
  traceId := lit "trace_1"
  runId := lit "run_1"
  commitSha := lit "c0ffee1"
  repo := some (lit "core")
  evalResult := .fail

def liveTrace : Trace where
  traceId := lit "trace_2"
  runId := lit "run_2"
  commitSha := lit "c0ffee2"
  repo := some (lit "core")

def draftCase : FailureCase where
  caseId := lit "case_1"
  sourceTraceId := lit "trace_1"
  commitSha := lit "c0ffee1"
  failureType := lit "timeout"
  symptom := lit "worker hangs"

def sampleReview : CaseReview where
  reviewedBy := lit "reviewer"
  rootCause := lit "lock order"

def sampleVerification : CaseVerification where
  fix := lit "acquire locks in order"
  fixCommitSha := lit "c0ffee2"
  regressionPassed := true

def sampleLesson : Lesson where
  lessonId := lit "lesson_1"
  sourceCaseId := lit "case_1"
  lessonText := lit "Acquire locks in order."
  memoryType := .procedural
  scope := Dict.ofList [(lit "repo", lit "core")]
  confidence := .int 1

def sampleContext : MemoryContext where
  mode := .debug
  repo := lit "core"
  commitSha := lit "c0ffee2"

def sampleCalls : List (Env × Operation) :=
  [(sampleEnv, .recordTrace failedTrace), (sampleEnv, .addFailureCase draftCase),
    (sampleEnv, .reviewFailureCase (lit "case_1") sampleReview),
    (sampleEnv, .verifyFailureCase (lit "case_1") sampleVerification),
    (sampleEnv, .addLesson sampleLesson), (sampleEnv, .recordTrace liveTrace)]

def sampleStore : Store := runStore asciiPython (Store.fresh 0 sampleSession) sampleCalls

def sampleDecision : MemoryDecision where
  useMemory := true
  allowedMemoryIds := [lit "lesson_1"]
  blockedMemoryIds := []
  reason := lit "relevant"
  risk := .low
  recommendedInjection := .shortSummary

def sampleRequest : PrepareArguments where
  context := sampleContext
  task := lit "fix the hang"

def sampleFinalization (request : MemoryGateRequest) : FinalizeArguments where
  request := request
  payload := .mapping sampleDecision.asDict
  traceId := lit "trace_2"

def sampleGate : Op GatedMemoryResult := do
  let request ← prepareMemory asciiPython sampleRequest
  finalizeMemory asciiPython sampleEnv (sampleFinalization request)

theorem sampleStore_reachable : Reachable asciiPython sampleStore :=
  (Reachable.fresh 0 sampleSession).run sampleCalls

set_option maxRecDepth 20000 in
theorem sampleGate_returns : returns (sampleGate sampleStore) = true := by
  decide +kernel

theorem sampleGate_steps : ∃ r s g s', prepareMemory asciiPython sampleRequest sampleStore = .ok r s ∧
    finalizeMemory asciiPython sampleEnv (sampleFinalization r) s = .ok g s' := by
  obtain ⟨g, s', h⟩ := exists_of_returns sampleGate_returns
  obtain ⟨r, s, hp, hf⟩ := run_bind_eq_ok.mp h
  exact ⟨r, s, g, s', hp, hf⟩

end Sample

end TraceBackedMemory
