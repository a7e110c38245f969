import TraceBackedMemory.Gate.Session

namespace TraceBackedMemory

open Text Raising

section Inversion

theorem GateSessionRecord.build_eq_ok {r : GateSessionRecord} {s : GateSession} :
    r.build = .ok s ↔ s.toGateSessionRecord = r := by
  unfold GateSessionRecord.build
  constructor
  · intro h
    split at h
    · cases h
      rfl
    · cases h
  · intro h
    subst h
    split
    · rfl
    · rename_i e he
      rw [s.valid] at he
      cases he

theorem refuseFirst_eq_ok {p : Str} {l : List SessionField} {u : Unit} :
    refuseFirst p l = .ok u ↔ l = [] := by
  unfold refuseFirst sortedStrs
  constructor
  · intro h
    split at h
    · rename_i hnil
      have hlen := congrArg List.length hnil
      rw [List.length_insertionSort, List.length_map] at hlen
      exact List.length_eq_zero_iff.mp hlen
    · cases h
  · rintro rfl
    rfl

namespace GateSession

theorem instant_eq_ok {text : Str} {t : Int} : instant text = .ok t ↔ instant? text = some t := by
  rw [instant, demand_eq_ok]

theorem checkTransitionTimes_eq_ok {s : GateSession} {target : GateSessionStatus} {updatedAt : Str} :
    s.checkTransitionTimes target updatedAt = .ok () ↔
      ∃ previous next expires, instant? s.updatedAt = some previous ∧
        instant? updatedAt = some next ∧ instant? s.expiresAt = some expires ∧ previous < next ∧
        (target.terminal = false → next ≤ expires) ∧ (target = .expired → expires ≤ next) := by
  simp only [checkTransitionTimes, bind_eq_ok, exists_unit, instant_eq_ok, demand_eq_ok,
    raiseIf_eq_ok, not_le, not_and, not_lt]
  constructor
  · rintro ⟨p, hp, n, hn, hlt, e, he, h₁, h₂⟩
    exact ⟨p, n, e, hp, hn, he, hlt, h₁, h₂⟩
  · rintro ⟨p, n, e, hp, hn, he, hlt, h₁, h₂⟩
    exact ⟨p, hp, n, hn, hlt, e, he, h₁, h₂⟩

theorem transition_eq_ok {s s' : GateSession} {target : GateSessionStatus} {v : Nat} {at' : Str}
    {f : TransitionFields} :
    s.transition target v at' f = .ok s' ↔
      v = s.version ∧ target ∈ s.status.allowedTransitions ∧
        (∀ n, f.has n = true ↔ n ∈ allowedFields target) ∧
        s.checkTransitionTimes target at' = .ok () ∧
        s'.toGateSessionRecord = s.advanced target at' f := by
  have hfields : (f.supplied.filter (fun n => decide (n ∉ allowedFields target)) = [] ∧
      (requiredFields target).filter (fun n => decide (n ∉ f.supplied)) = []) ↔
      ∀ n, f.has n = true ↔ n ∈ allowedFields target := by
    simp only [List.filter_eq_nil_iff, decide_eq_true_eq, not_not, TransitionFields.mem_supplied,
      requiredFields]
    constructor
    · rintro ⟨h₁, h₂⟩ n
      exact ⟨h₁ n, h₂ n⟩
    · intro h
      exact ⟨fun n => (h n).mp, fun n => (h n).mpr⟩
  simp only [transition, bind_eq_ok, exists_unit, raiseIf_eq_ok, not_not, refuseFirst_eq_ok,
    GateSessionRecord.build_eq_ok, ← hfields]
  constructor
  · rintro ⟨hv, ht, hu, hm, hc, hb⟩
    exact ⟨hv, ht, ⟨hu, hm⟩, hc, hb⟩
  · rintro ⟨hv, ht, ⟨hu, hm⟩, hc, hb⟩
    exact ⟨hv, ht, hu, hm, hc, hb⟩

theorem renewLease_eq_ok {s s' : GateSession} {v : Nat} {at' lease : Str} :
    s.renewLease v at' lease = .ok s' ↔
      v = s.version ∧ s.status.activeLease = true ∧
        (∃ current next updated previous, s.leaseExpiresAt.bind instant? = some current ∧
          instant? lease = some next ∧ instant? at' = some updated ∧
          instant? s.updatedAt = some previous ∧ previous < updated ∧ updated < current ∧
          current < next) ∧
        s'.toGateSessionRecord = s.renewed at' lease := by
  simp only [renewLease, bind_eq_ok, exists_unit, raiseIf_eq_ok, not_not, demand_eq_ok,
    instant_eq_ok, not_le, GateSessionRecord.build_eq_ok, Bool.not_eq_false]
  constructor
  · rintro ⟨hv, ha, c, hc, n, hn, u, hu, p, hp, h₁, h₂, h₃, hb⟩
    exact ⟨hv, ha, ⟨c, n, u, p, hc, hn, hu, hp, h₁, h₂, h₃⟩, hb⟩
  · rintro ⟨hv, ha, ⟨c, n, u, p, hc, hn, hu, hp, h₁, h₂, h₃⟩, hb⟩
    exact ⟨hv, ha, c, hc, n, hn, u, hu, p, hp, h₁, h₂, h₃, hb⟩

end GateSession

end Inversion

section Evidence

def SessionField.recordedAt : SessionField → Option GateSessionStatus
  | leaseExpiresAt | terminalReason => none
  | retrievalSnapshotId | systemGateEvaluationId => some .prepared
  | semanticGateAttemptIds | decisionId => some .decided
  | finalMemoryRevisionIds | injectionArtifactId | usageDecisionId => some .finalized
  | runOutcomeId => some .completed

namespace GateSessionRecord

def evidence (r : GateSessionRecord) : SessionField → List Str
  | .leaseExpiresAt => r.leaseExpiresAt.toList
  | .retrievalSnapshotId => r.retrievalSnapshotId.toList
  | .systemGateEvaluationId => r.systemGateEvaluationId.toList
  | .semanticGateAttemptIds => r.semanticGateAttemptIds
  | .decisionId => r.decisionId.toList
  | .finalMemoryRevisionIds => r.finalMemoryRevisionIds
  | .injectionArtifactId => r.injectionArtifactId.toList
  | .usageDecisionId => r.usageDecisionId.toList
  | .runOutcomeId => r.runOutcomeId.toList
  | .terminalReason => r.terminalReason.toList

def recorded (r : GateSessionRecord) : GateSessionStatus → Bool
  | .prepared => r.hasRetrieval
  | .decided => r.hasDecision
  | .finalized => r.hasInjection
  | .completed => r.hasOutcome
  | _ => false

def identity (r : GateSessionRecord) : SessionIdentity :=
  { sessionId := r.sessionId
    tenantId := r.tenantId
    repositoryId := r.repositoryId
    principalId := r.principalId
    agentClientId := r.agentClientId
    traceId := r.traceId
    runId := r.runId
    requestFingerprint := r.requestFingerprint
    idempotencyKey := r.idempotencyKey }

end GateSessionRecord

namespace GateSession

theorem links (s : GateSession) :
    s.hasRetrieval = s.systemGateEvaluationId.isSome ∧
      (s.semanticGateAttemptIds ≠ [] → s.hasDecision = true) ∧
      (s.hasDecision = true → s.hasRetrieval = true) ∧
      s.hasInjection = s.usageDecisionId.isSome ∧
      (s.hasInjection = true → s.hasDecision = true) ∧
      (s.finalMemoryRevisionIds ≠ [] → s.hasInjection = true) ∧
      (s.hasOutcome = true → s.hasInjection = true) := by
  have h := s.valid
  simp only [GateSessionRecord.check, GateSessionRecord.validateRecordShape,
    GateSessionRecord.checkLinks, bind_eq_ok, exists_unit, raiseIf_eq_ok, not_and, not_not,
    ne_eq, Bool.not_eq_false] at h
  obtain ⟨-, -, -, ⟨h₁, h₂, h₃, h₄, h₅, h₆, h₇⟩, -⟩ := h
  exact ⟨h₁, h₂, h₃, h₄, h₅, h₆, h₇⟩

theorem statusShape (s : GateSession) :
    s.checkStatus = .ok () ∧ s.checkLeasePresence = .ok () ∧ s.checkReason = .ok () := by
  have h := s.valid
  simp only [GateSessionRecord.check, GateSessionRecord.validateRecordShape, bind_eq_ok, exists_unit]
    at h
  exact h.2.2.2.2

theorem recorded_of_evidence (s : GateSession) {f : SessionField} {stage : GateSessionStatus}
    (hf : f.recordedAt = some stage) (h : s.evidence f ≠ []) : s.recorded stage = true := by
  obtain ⟨hsys, hsem, -, huse, -, hfin, -⟩ := s.links
  have present {o : Option Str} (h : o.toList ≠ []) : o.isSome = true := by
    cases o with
    | none => exact absurd rfl h
    | some v => rfl
  cases f with
  | leaseExpiresAt | terminalReason => cases hf
  | retrievalSnapshotId | decisionId | injectionArtifactId | runOutcomeId =>
    cases hf
    exact present h
  | systemGateEvaluationId =>
    cases hf
    exact hsys.trans (present h)
  | usageDecisionId =>
    cases hf
    exact huse.trans (present h)
  | semanticGateAttemptIds =>
    cases hf
    exact hsem h
  | finalMemoryRevisionIds =>
    cases hf
    exact hfin h

theorem not_recorded_of_edge (s : GateSession) {target : GateSessionStatus}
    (h : target ∈ s.status.allowedTransitions) : s.recorded target = false := by
  have hs := s.statusShape.1
  unfold GateSessionRecord.checkStatus at hs
  cases hstatus : s.status with
  | completed | canceled | expired | abandoned =>
    rw [hstatus] at h
    simp [GateSessionStatus.allowedTransitions] at h
  | created =>
    rw [hstatus] at h hs
    simp only [raiseIf_eq_ok, not_or, Bool.not_eq_true] at hs
    obtain ⟨-, hr, -⟩ := hs
    rcases List.mem_cons.mp h with rfl | h
    · exact hr
    · rw [List.mem_singleton.mp h]
      rfl
  | prepared =>
    rw [hstatus] at h
    simp only [GateSessionStatus.allowedTransitions, List.mem_cons, List.not_mem_nil, or_false] at h
    rcases h with rfl | rfl | rfl <;> rfl
  | awaitingDecision =>
    rw [hstatus] at h hs
    simp only [raiseIf_eq_ok, not_or, Bool.not_eq_true] at hs
    simp only [GateSessionStatus.allowedTransitions, List.mem_cons, List.not_mem_nil, or_false] at h
    rcases h with rfl | rfl | rfl
    · exact hs.2.1
    · rfl
    · rfl
  | decided =>
    rw [hstatus] at h hs
    simp only [raiseIf_eq_ok, not_or, Bool.not_eq_true] at hs
    rw [List.mem_singleton.mp h]
    exact hs.2.2.1
  | finalized =>
    rw [hstatus] at h
    rw [List.mem_singleton.mp h]
    rfl
  | executing =>
    rw [hstatus] at h hs
    simp only [raiseIf_eq_ok, not_or, Bool.not_eq_true] at hs
    simp only [GateSessionStatus.allowedTransitions, List.mem_cons, List.not_mem_nil, or_false] at h
    rcases h with rfl | rfl
    · exact hs.2
    · rfl

end GateSession

end Evidence

section Steps

def GateSession.updated (s : GateSession) : Int := (instant? s.updatedAt).getD 0

structure Advances (s s' : GateSession) : Prop where
  live : s.status.terminal = false
  version : s'.version = s.version + 1
  updated : s.updated < s'.updated
  identity : s'.identity = s.identity
  origin : s'.createdAt = s.createdAt ∧ s'.expiresAt = s.expiresAt
  edge : s'.status = s.status ∨ s'.status ∈ s.status.allowedTransitions
  recorded : ∀ stage, s'.recorded stage = s.recorded stage ∨
    s.recorded stage = false ∧ s'.status = stage ∧ stage ∈ s.status.allowedTransitions
  evidence : ∀ f stage, f.recordedAt = some stage → s.recorded stage = true →
    s'.evidence f = s.evidence f

inductive SessionAction where
  | transition (target : GateSessionStatus) (expectedVersion : Nat) (updatedAt : Str)
      (fields : TransitionFields)
  | renewLease (expectedVersion : Nat) (updatedAt leaseExpiresAt : Str)

def SessionAction.perform (s : GateSession) : SessionAction → Except GateError GateSession
  | transition target v updatedAt f => s.transition target v updatedAt f
  | renewLease v updatedAt lease => s.renewLease v updatedAt lease

theorem GateSessionStatus.live_of_edge {a b : GateSessionStatus} (h : b ∈ a.allowedTransitions) :
    a.terminal = false := by
  cases a with
  | completed | canceled | expired | abandoned => simp [allowedTransitions] at h
  | created | prepared | awaitingDecision | decided | finalized | executing => rfl

theorem GateSessionStatus.live_of_activeLease {a : GateSessionStatus} (h : a.activeLease = true) :
    a.terminal = false := by
  cases a with
  | completed | canceled | expired | abandoned | created => cases h
  | prepared | awaitingDecision | decided | finalized | executing => rfl

theorem GateSession.updated_eq {s : GateSession} {t : Int} (h : instant? s.updatedAt = some t) :
    s.updated = t := by
  rw [updated, h]
  rfl

theorem advanced_evidence {s : GateSession} {target : GateSessionStatus} {at' : Str}
    {f : TransitionFields} (hf : ∀ n, f.has n = true ↔ n ∈ allowedFields target)
    {n : SessionField} {stage : GateSessionStatus} (hn : n.recordedAt = some stage)
    (hstage : target ≠ stage) : (s.advanced target at' f).evidence n = s.evidence n := by
  have absent : f.has n = false := by
    rw [Bool.eq_false_iff]
    intro h
    have hmem := (hf n).mp h
    cases n <;> cases hn <;> cases target <;> first | exact hstage rfl | simp [allowedFields] at hmem
  cases n with
  | leaseExpiresAt | terminalReason => cases hn
  | retrievalSnapshotId | systemGateEvaluationId | decisionId | injectionArtifactId
  | usageDecisionId | runOutcomeId | semanticGateAttemptIds | finalMemoryRevisionIds =>
    rw [TransitionFields.has, Option.isSome_eq_false_iff, Option.isNone_iff_eq_none] at absent
    simp only [GateSessionRecord.evidence, GateSession.advanced, absent, Option.none_or,
      Option.getD_none]

theorem recorded_eq_of_evidence {r r' : GateSessionRecord}
    {stage : GateSessionStatus}
    (h : ∀ n, n.recordedAt = some stage → r'.evidence n = r.evidence n) :
    r'.recorded stage = r.recorded stage := by
  have same {o o' : Option Str} (h : o.toList = o'.toList) : o.isSome = o'.isSome := by
    cases o <;> cases o' <;> first | rfl | cases h
  cases stage with
  | created | awaitingDecision | executing | canceled | expired | abandoned => rfl
  | prepared => exact same (h .retrievalSnapshotId rfl)
  | decided => exact same (h .decisionId rfl)
  | finalized => exact same (h .injectionArtifactId rfl)
  | completed => exact same (h .runOutcomeId rfl)

theorem transition_advances {s s' : GateSession} {target : GateSessionStatus} {v : Nat} {at' : Str}
    {f : TransitionFields} (h : s.transition target v at' f = .ok s') : Advances s s' := by
  obtain ⟨-, htarget, hf, htimes, hs'⟩ := GateSession.transition_eq_ok.mp h
  obtain ⟨p, n, e, hp, hn, -, hlt, -, -⟩ := GateSession.checkTransitionTimes_eq_ok.mp htimes
  have hstatus : s'.status = target := by rw [hs']; rfl
  have hkept : ∀ stage, target ≠ stage → ∀ n, n.recordedAt = some stage →
      s'.evidence n = s.evidence n := by
    intro stage hne n hn
    rw [hs']
    exact advanced_evidence hf hn hne
  refine
    { live := GateSessionStatus.live_of_edge htarget
      version := by rw [hs']; rfl
      updated := ?_
      identity := by rw [hs']; rfl
      origin := by rw [hs']; exact ⟨rfl, rfl⟩
      edge := .inr (hstatus ▸ htarget)
      recorded := ?_
      evidence := ?_ }
  · have hnext : instant? s'.updatedAt = some n := by rw [hs']; exact hn
    rw [GateSession.updated_eq hp, GateSession.updated_eq hnext]
    exact hlt
  · intro stage
    by_cases hstage : target = stage
    · subst hstage
      exact .inr ⟨s.not_recorded_of_edge htarget, hstatus, htarget⟩
    · exact .inl (recorded_eq_of_evidence (hkept stage hstage))
  · intro n stage hn hrec
    by_cases hstage : target = stage
    · subst hstage
      rw [s.not_recorded_of_edge htarget] at hrec
      cases hrec
    · exact hkept stage hstage n hn

theorem renewLease_advances {s s' : GateSession} {v : Nat} {at' lease : Str}
    (h : s.renewLease v at' lease = .ok s') : Advances s s' := by
  obtain ⟨-, hactive, ⟨_, _, u, p, -, -, hu, hp, hlt, -, -⟩, hs'⟩ := GateSession.renewLease_eq_ok.mp h
  have hkept : ∀ n stage, n.recordedAt = some stage → s'.evidence n = s.evidence n := by
    intro n stage hn
    rw [hs']
    cases n <;> first | rfl | cases hn
  refine
    { live := GateSessionStatus.live_of_activeLease hactive
      version := by rw [hs']; rfl
      updated := ?_
      identity := by rw [hs']; rfl
      origin := by rw [hs']; exact ⟨rfl, rfl⟩
      edge := .inl (by rw [hs']; rfl)
      recorded := fun stage => .inl (recorded_eq_of_evidence (fun n hn => hkept n stage hn))
      evidence := fun n stage hn _ => hkept n stage hn }
  have hnext : instant? s'.updatedAt = some u := by rw [hs']; exact hu
  rw [GateSession.updated_eq hp, GateSession.updated_eq hnext]
  exact hlt

theorem perform_advances {s s' : GateSession} {a : SessionAction} (h : a.perform s = .ok s') :
    Advances s s' := by
  cases a with
  | transition target v updatedAt f => exact transition_advances h
  | renewLease v updatedAt lease => exact renewLease_advances h

end Steps

section Runs

def history (s : GateSession) : List SessionAction → Except GateError (List GateSession)
  | [] => .ok [s]
  | a :: l => do
    let s' ← a.perform s
    let later ← history s' l
    return s :: later

def GateSessionStatus.mainPath : GateSessionStatus → List GateSessionStatus
  | created => [created]
  | prepared => [created, prepared]
  | awaitingDecision => [created, prepared, awaitingDecision]
  | decided => [created, prepared, awaitingDecision, decided]
  | finalized => [created, prepared, awaitingDecision, decided, finalized]
  | executing => [created, prepared, awaitingDecision, decided, finalized, executing]
  | completed => [created, prepared, awaitingDecision, decided, finalized, executing, completed]
  | abandoned => [created, prepared, awaitingDecision, decided, finalized, executing, abandoned]
  | canceled | expired => []

def visit (path : List GateSessionStatus) (status : GateSessionStatus) : List GateSessionStatus :=
  if path.getLast? = some status then path else path ++ [status]

def statusPath (run : List GateSession) : List GateSessionStatus :=
  (run.map (fun s => s.status)).foldl visit []

theorem statusPath_concat (run : List GateSession) (s : GateSession) :
    statusPath (run ++ [s]) = visit (statusPath run) s.status := by
  simp [statusPath]

theorem visit_getLast? (path : List GateSessionStatus) (a : GateSessionStatus) :
    (visit path a).getLast? = some a := by
  unfold visit
  split
  · assumption
  · simp

theorem statusPath_getLast? (run : List GateSession) (s : GateSession) :
    (statusPath (run ++ [s])).getLast? = some s.status := by
  rw [statusPath_concat]
  exact visit_getLast? _ _

structure Traced (path : List GateSessionStatus) (s : GateSession) : Prop where
  mainline : s.status ≠ .canceled → s.status ≠ .expired → path = s.status.mainPath
  taken : ∀ stage, s.recorded stage = true → stage.mainPath <+: path

theorem mainPath_edge {a b : GateSessionStatus} (h : b ∈ a.allowedTransitions)
    (hc : b ≠ .canceled) (he : b ≠ .expired) : b.mainPath = a.mainPath ++ [b] := by
  cases a <;> cases b <;> first | rfl | exact absurd rfl hc | exact absurd rfl he | simp [GateSessionStatus.allowedTransitions] at h

theorem ne_of_edge {a b : GateSessionStatus} (h : b ∈ a.allowedTransitions) : b ≠ a := by
  rintro rfl
  cases b <;> simp [GateSessionStatus.allowedTransitions] at h

theorem recorded_mainline {s : GateSession} {stage : GateSessionStatus}
    (h : s.recorded stage = true) : stage ≠ .canceled ∧ stage ≠ .expired := by
  constructor <;> · rintro rfl; cases h

theorem Traced.step {path : List GateSessionStatus} {s s' : GateSession} (h : Traced path s)
    (hlast : path.getLast? = some s.status) (hstep : Advances s s') :
    Traced (visit path s'.status) s' := by
  rcases hstep.edge with hsame | hedge
  · have hpath : visit path s'.status = path := by
      rw [visit, hsame, if_pos hlast]
    rw [hpath]
    refine ⟨?_, ?_⟩
    · intro hc he
      rw [hsame] at hc he ⊢
      exact h.mainline hc he
    · intro stage hrec
      rcases hstep.recorded stage with hr | ⟨-, hs, hedge⟩
      · exact h.taken stage (hr ▸ hrec)
      · exact absurd (hs.symm.trans hsame) (ne_of_edge hedge)
  · have hmain : path = s.status.mainPath := by
      apply h.mainline
      · intro hc
        rw [hc] at hedge
        cases hedge
      · intro he
        rw [he] at hedge
        cases hedge
    have hpath : visit path s'.status = path ++ [s'.status] := by
      rw [visit, hlast, if_neg]
      intro heq
      exact ne_of_edge hedge (Option.some.inj heq).symm
    rw [hpath]
    refine ⟨?_, ?_⟩
    · intro hc he
      rw [mainPath_edge hedge hc he, hmain]
    · intro stage hrec
      rcases hstep.recorded stage with hr | ⟨-, rfl, -⟩
      · exact (h.taken stage (hr ▸ hrec)).trans (List.prefix_append _ _)
      · obtain ⟨hc, he⟩ := recorded_mainline hrec
        rw [mainPath_edge hedge hc he, hmain]

structure LawfulRun (i : SessionIdentity) (run : List GateSession) : Prop where
  versions : run.map (fun s => s.version) = List.range' 1 run.length
  updates : run.Pairwise (fun s s' => s.updated < s'.updated)
  identity : ∀ s ∈ run, s.identity = i
  evidence : run.Pairwise (fun s s' => ∀ f stage, f.recordedAt = some stage →
    s.recorded stage = true → s'.recorded stage = true ∧ s'.evidence f = s.evidence f)
  terminal : run.Pairwise (fun s _ => s.status.terminal = false)
  path : ∀ earlier s, earlier ++ [s] <+: run → ∀ stage, s.recorded stage = true →
    stage.mainPath <+: statusPath (earlier ++ [s])

theorem created_record {i : SessionIdentity} {c e : Str} {s : GateSession}
    (h : createGateSession i c e = .ok s) :
    s.status = .created ∧ s.version = 1 ∧ s.identity = i ∧ ∀ stage, s.recorded stage = false := by
  have hs := GateSessionRecord.build_eq_ok.mp h
  refine ⟨by rw [hs], by rw [hs], by rw [hs]; rfl, ?_⟩
  intro stage
  rw [hs]
  cases stage <;> rfl

theorem Advances.recorded_mono {s s' : GateSession} (h : Advances s s') {stage : GateSessionStatus}
    (hrec : s.recorded stage = true) : s'.recorded stage = true := by
  rcases h.recorded stage with hr | ⟨hr, -, -⟩
  · exact hr.trans hrec
  · rw [hr] at hrec
    cases hrec

structure RunState (i : SessionIdentity) (earlier : List GateSession) (s : GateSession) : Prop where
  lawful : LawfulRun i (earlier ++ [s])
  traced : Traced (statusPath (earlier ++ [s])) s

theorem pairwise_concat {α : Type} {R : α → α → Prop} {l : List α} {a : α} :
    (l ++ [a]).Pairwise R ↔ l.Pairwise R ∧ ∀ b ∈ l, R b a := by
  simp [List.pairwise_append]

theorem pairwise_step {α : Type} {R : α → α → Prop} {l : List α} {a b : α}
    (h : (l ++ [a]).Pairwise R) (hab : R a b) (htrans : ∀ c ∈ l, R c a → R c b) :
    (l ++ [a] ++ [b]).Pairwise R := by
  refine pairwise_concat.mpr ⟨h, ?_⟩
  intro c hc
  rcases List.mem_append.mp hc with hc | hc
  · exact htrans c hc ((pairwise_concat.mp h).2 c hc)
  · rw [List.mem_singleton.mp hc]
    exact hab

theorem RunState.step {i : SessionIdentity} {earlier : List GateSession} {s s' : GateSession}
    (h : RunState i earlier s) (hstep : Advances s s') : RunState i (earlier ++ [s]) s' := by
  obtain ⟨hl, ht⟩ := h
  have htraced : Traced (statusPath (earlier ++ [s] ++ [s'])) s' := by
    rw [statusPath_concat]
    exact ht.step (statusPath_getLast? earlier s) hstep
  refine ⟨?_, htraced⟩
  refine
    { versions := ?_
      updates := pairwise_step hl.updates hstep.updated (fun c _ hc => hc.trans hstep.updated)
      identity := ?_
      evidence := ?_
      terminal := pairwise_step hl.terminal hstep.live (fun _ _ hc => hc)
      path := ?_ }
  · have hversion : s.version = earlier.length + 1 := by
      have hlast := congrArg List.getLast? hl.versions
      simp only [List.map_append, List.map_cons, List.map_nil, List.getLast?_concat,
        List.length_append, List.length_cons, List.length_nil, List.range'_concat] at hlast
      have := Option.some.inj hlast
      omega
    have hlen : (earlier ++ [s] ++ [s']).length = (earlier ++ [s]).length + 1 := by simp
    rw [List.map_append, hl.versions, hlen, List.range'_concat, List.map_singleton, hstep.version,
      hversion, List.length_append, List.length_singleton, Nat.one_mul, Nat.add_comm 1]
  · intro t htm
    rcases List.mem_append.mp htm with htm | htm
    · exact hl.identity t htm
    · rw [List.mem_singleton.mp htm, hstep.identity]
      exact hl.identity s (by simp)
  · refine pairwise_step hl.evidence ?_ ?_
    · intro f stage hf hrec
      exact ⟨hstep.recorded_mono hrec, hstep.evidence f stage hf hrec⟩
    · intro t _ hts f stage hf hrec
      obtain ⟨hrec', hev⟩ := hts f stage hf hrec
      exact ⟨hstep.recorded_mono hrec', (hstep.evidence f stage hf hrec').trans hev⟩
  · intro pre t hpre stage hrec
    rcases List.prefix_concat_iff.mp hpre with heq | hpre
    · obtain ⟨rfl, rfl⟩ := List.append_singleton_inj.mp heq
      exact htraced.taken stage hrec
    · exact hl.path pre t hpre stage hrec

theorem RunState.history_lawful {i : SessionIdentity} {earlier : List GateSession} {s : GateSession}
    (h : RunState i earlier s) {actions : List SessionAction} {run : List GateSession}
    (hrun : history s actions = .ok run) : LawfulRun i (earlier ++ run) := by
  induction actions generalizing earlier s run with
  | nil =>
    cases hrun
    exact h.lawful
  | cons a l ih =>
    simp only [history, bind_eq_ok, pure_eq_ok] at hrun
    obtain ⟨s', hs', later, hlater, rfl⟩ := hrun
    have hrest := ih (h.step (perform_advances hs')) hlater
    rwa [List.append_assoc] at hrest

theorem created_runState {i : SessionIdentity} {c e : Str} {s : GateSession}
    (h : createGateSession i c e = .ok s) : RunState i [] s := by
  obtain ⟨hstatus, hversion, hi, hrec⟩ := created_record h
  have hpath : statusPath ([] ++ [s]) = [.created] := by
    rw [statusPath_concat, hstatus]
    rfl
  refine ⟨?_, ?_⟩
  · refine
      { versions := by simp [hversion]
        updates := List.pairwise_singleton _ _
        identity := by simp [hi]
        evidence := List.pairwise_singleton _ _
        terminal := List.pairwise_singleton _ _
        path := ?_ }
    intro pre t hpre stage ht
    obtain ⟨rfl, rfl⟩ : pre = [] ∧ t = s := by
      have hlen := hpre.length_le
      rw [List.length_append, List.length_singleton, List.nil_append, List.length_singleton] at hlen
      obtain rfl : pre = [] := List.length_eq_zero_iff.mp (by omega)
      simpa using hpre
    rw [hrec] at ht
    cases ht
  · rw [hpath]
    refine ⟨fun _ _ => by rw [hstatus]; rfl, ?_⟩
    intro stage ht
    rw [hrec] at ht
    cases ht

theorem terminal_refuses {s : GateSession} (h : s.status.terminal = true) (a : SessionAction) :
    ∃ e, a.perform s = .error e := by
  cases ha : a.perform s with
  | error e => exact ⟨e, rfl⟩
  | ok s' =>
    rw [(perform_advances ha).live] at h
    cases h

theorem gate_session_run_invariant (i : SessionIdentity) (createdAt expiresAt : Str)
    (first : GateSession) (hfirst : createGateSession i createdAt expiresAt = .ok first)
    (actions : List SessionAction) (run : List GateSession)
    (hrun : history first actions = .ok run) :
    LawfulRun i run ∧
      (∀ s ∈ run, ∀ f stage, f.recordedAt = some stage → s.evidence f ≠ [] →
        s.recorded stage = true) ∧
      ∀ s ∈ run, s.terminal = true → ∀ a : SessionAction, ∃ e, a.perform s = .error e := by
  refine ⟨?_, ?_, ?_⟩
  · have hlawful := (created_runState hfirst).history_lawful hrun
    rwa [List.nil_append] at hlawful
  · intro s _ f stage hf hev
    exact s.recorded_of_evidence hf hev
  · intro s _ hterminal a
    exact terminal_refuses hterminal a

def sampleIdentity : SessionIdentity :=
  { sessionId := lit "session-1"
    tenantId := lit "tenant-1"
    repositoryId := lit "repository-1"
    principalId := lit "principal-1"
    agentClientId := lit "client-1"
    traceId := lit "trace-1"
    runId := lit "run-1"
    requestFingerprint := lit "sha256:" ++ List.replicate 64 (cp '0')
    idempotencyKey := lit "key-1" }

def sampleActions : List SessionAction :=
  [.transition .prepared 1 (lit "2026-01-01T00:00:01Z")
      { leaseExpiresAt := some (lit "2026-01-01T00:01:00Z")
        retrievalSnapshotId := some (lit "snapshot-1")
        systemGateEvaluationId := some (lit "evaluation-1") },
    .renewLease 2 (lit "2026-01-01T00:00:02Z") (lit "2026-01-01T00:02:00Z"),
    .transition .awaitingDecision 3 (lit "2026-01-01T00:00:03Z") {},
    .transition .decided 4 (lit "2026-01-01T00:00:04Z")
      { semanticGateAttemptIds := some [lit "attempt-1"]
        decisionId := some (lit "attempt-1") },
    .transition .finalized 5 (lit "2026-01-01T00:00:05Z")
      { finalMemoryRevisionIds := some []
        injectionArtifactId := some (lit "artifact-1")
        usageDecisionId := some (lit "usage-1") }]

def sampleStatuses : Except GateError (List GateSessionStatus) := do
  let first ← createGateSession sampleIdentity (lit "2026-01-01T00:00:00Z") (lit "2026-01-01T01:00:00Z")
  let run ← history first sampleActions
  return run.map (fun s => s.status)

set_option maxRecDepth 20000 in
theorem sampleStatuses_eq : sampleStatuses = .ok
    [.created, .prepared, .prepared, .awaitingDecision, .decided, .finalized] := by
  decide +kernel

theorem gate_session_run_sample : ∃ first run,
    createGateSession sampleIdentity (lit "2026-01-01T00:00:00Z") (lit "2026-01-01T01:00:00Z") =
      .ok first ∧
    history first sampleActions = .ok run ∧ run.length = 6 ∧ LawfulRun sampleIdentity run := by
  have h := sampleStatuses_eq
  simp only [sampleStatuses, bind_eq_ok, pure_eq_ok] at h
  obtain ⟨first, hfirst, run, hrun, hlen⟩ := h
  refine ⟨first, run, hfirst, hrun, ?_, ?_⟩
  · simpa using congrArg List.length hlen
  · exact (gate_session_run_invariant _ _ _ first hfirst _ run hrun).1

end Runs

end TraceBackedMemory
