import TraceBackedMemory.Store.BatchOrder
import TraceBackedMemory.Store.Measured

namespace TraceBackedMemory

open Text Raising

variable {py : Python} {s s' s'' : Store} {rows done : List CompletionRow} {row row' : CompletionRow}

def completeEach (py : Python) : List MemoryRunResult → Op (List MemoryRunCompletion)
  | [] => pure []
  | r :: results => do
    let row ← inspect (fun s => s.resultRow r)
    let c ← completeMemoryRun py row.traceId r.decisionId r.evalResult r.memoryCausedFailure
      r.arguments
    let rest ← completeEach py results
    return c :: rest

-- rows that share a trace complete it, each on its own, to equal traces
def Store.Uniform (py : Python) (s : Store) (rows : List CompletionRow) : Prop :=
  ∀ row ∈ rows, ∀ row' ∈ rows, row.traceId = row'.traceId → ∀ t t',
    s.ownTrace py row = .ok t → s.ownTrace py row' = .ok t' → t.pyEq t' = true

section Repeated

variable {current t u : Trace}

theorem mapped_of_identity (hc : current.Mapped) (hi : t.identity = current.identity)
    (hs : (t.slot .toolOutputs).Mapped) : t.Mapped := by
  simp only [Trace.identity, Trace.mk.injEq] at hi
  have hretrieved : t.retrievedContext = current.retrievedContext := by tauto
  have hcalls : t.toolCalls = current.toolCalls := by tauto
  exact ⟨hretrieved ▸ hc.retrieved_context, hcalls ▸ hc.tool_calls, hs⟩

-- a measured trace accepts again what it already holds
theorem completed_again (hn : (row.values.map CompletionValue.field).Nodup)
    (hmapped : ∀ v ∈ row.values, v.Mapped) (htm : t.Mapped) (hv : validateTrace py t = .ok ())
    (hresult : t.evalResult = row.evalResult) (hmeasured : row.evalResult.evaluated = true)
    (hi : t.identity = current.identity)
    (hown : completedTraceCandidate py current row.evalResult row.values = .ok u)
    (hsame : ∀ v ∈ row.values, v.pyEq (t.slot v.field) = true) :
    completedTraceCandidate py t row.evalResult row.values = .ok t := by
  have hidentity := identity_completionCandidate t row.evalResult row.values
  have hvalid : validateTrace py (completionCandidate t row.evalResult row.values) = .ok () := by
    refine validateTrace_of_slots fun f => ?_
    by_cases hf : f ∈ row.values.map CompletionValue.field
    · obtain ⟨v, hv, rfl⟩ := List.mem_map.mp hf
      refine ⟨completionCandidate current row.evalResult row.values, ?_,
        ((completedTraceCandidate_eq_ok hn).mp hown).1, ?_⟩
      · rw [hidentity, hi, identity_completionCandidate]
      · rw [slot_candidate_of_mem hn hv, slot_candidate_of_mem hn hv]
    · exact ⟨t, hidentity.symm, hv, (slot_candidate_of_not_mem hf).symm⟩
  have hcomparable := comparable_of_valid (mapped_candidate htm hmapped hn) hvalid
  refine (completedTraceCandidate_eq_ok hn).mpr
    ⟨hvalid, .inl ⟨hresult ▸ hmeasured, (pyEq_of_slots hidentity hcomparable).mpr ⟨?_, fun f => ?_⟩, rfl⟩⟩
  · rw [evalResult_completionCandidate, hresult]
  · by_cases hf : f ∈ row.values.map CompletionValue.field
    · obtain ⟨v, hv, rfl⟩ := List.mem_map.mp hf
      rw [slot_candidate_of_mem hn hv]
      exact hsame v hv
    · rw [slot_candidate_of_not_mem hf]
      exact (comparable_of_valid htm hv).slots f

-- a row accepted on a measured trace brings nothing the trace does not hold
theorem provided_of_accepted (hn : (row'.values.map CompletionValue.field).Nodup)
    (hmapped : ∀ v ∈ row'.values, v.Mapped) (htm : t.Mapped) (hsealed : t.evalResult.evaluated = true)
    (h : completedTraceCandidate py t row'.evalResult row'.values = .ok u) :
    u = t ∧ ∀ v ∈ row'.values, v.pyEq (t.slot v.field) = true := by
  obtain ⟨hvalid, ⟨_, hpy, rfl⟩ | ⟨hopen, _⟩⟩ := (completedTraceCandidate_eq_ok hn).mp h
  · have hcomparable := comparable_of_valid (mapped_candidate htm hmapped hn) hvalid
    obtain ⟨_, hslots⟩ := (pyEq_of_slots (identity_completionCandidate _ _ _) hcomparable).mp hpy
    refine ⟨rfl, fun v hv => ?_⟩
    have hslot := hslots v.field
    rwa [slot_candidate_of_mem hn hv] at hslot
  · rw [hsealed] at hopen
    cases hopen

end Repeated

section Settling

-- the rows already carried out, one after another, have left this state behind
structure Store.Settled (py : Python) (s : Store) (done : List CompletionRow) (s' : Store) : Prop where
  sound : Sound py s'
  keys : s'.traces.keys = s.traces.keys
  rest : { s' with traces := s.traces, usageLogs := s.usageLogs } = s
  untouched : ∀ k, (∀ row ∈ done, row.traceId ≠ k) → s'.traces.get? k = s.traces.get? k
  touched : ∀ row ∈ done, ∃ row' ∈ done, row'.traceId = row.traceId ∧ ∃ t,
    s.ownTrace py row' = .ok t ∧ s'.traces.get? row.traceId = some t
  sealed : ∀ row ∈ done, ∀ q, s.stageLog row = .ok q → s'.usageLogs[row.logIndex]? = some q.2
  unsealed : ∀ i, (∀ row ∈ done, row.logIndex ≠ i) → s'.usageLogs[i]? = s.usageLogs[i]?

theorem settled_start (h : Sound py s) : s.Settled py [] s :=
  ⟨h, rfl, rfl, fun _ _ => rfl, by simp, by simp, fun _ _ => rfl⟩

theorem Store.Settled.decided (hs : s.Settled py done s') {d : Str} {i : Nat} {log : MemoryUsageLog}
    {t : Trace} (hd : s.Decided d i log t) (hi : ∀ row ∈ done, row.logIndex ≠ i) :
    ∃ t', s'.Decided d i log t' ∧ t'.traceId = t.traceId := by
  have hindexes : s'.usageLogIndexes = s.usageLogIndexes := by
    have hrest := congrArg Store.usageLogIndexes hs.rest
    exact hrest
  obtain ⟨log', t', hd'⟩ := decided_of_index hs.sound (hindexes ▸ hd.index_at)
  have hlog := hs.unsealed i hi
  rw [hd'.log_at, hd.log_at] at hlog
  cases hlog
  have hid := hd'.trace_id
  rw [hd.trace_id] at hid
  exact ⟨t', hd', (Option.some.inj hid).symm⟩

theorem Store.Settled.step (hs : s.Settled py done s') {d : Str} {log : MemoryUsageLog} {t : Trace}
    (hd : s'.Decided d row.logIndex log t) (hk : row.traceId = t.traceId)
    (hi : ∀ row' ∈ done, row'.logIndex ≠ row.logIndex) {c : MemoryRunCompletion}
    (hcid : c.trace.traceId = t.traceId)
    (hlog : ∀ q, s.stageLog row = .ok q → c.usageLog = q.2) (hsound : Sound py (s'.completed row.logIndex c.trace c.usageLog))
    (ht : (∃ row' ∈ done, row'.traceId = row.traceId) → c.trace = t)
    (hfirst : (∀ row' ∈ done, row'.traceId ≠ row.traceId) → s.ownTrace py row = .ok c.trace) :
    s.Settled py (done ++ [row]) (s'.completed row.logIndex c.trace c.usageLog) := by
  have hset : ∀ k, (s'.completed row.logIndex c.trace c.usageLog).traces.get? k =
      if k = row.traceId then some c.trace else s'.traces.get? k := by
    intro k
    rw [Store.completed, Dict.get?_set, hcid, hk]
  have hget : ∀ i, i ≠ row.logIndex →
      (s'.completed row.logIndex c.trace c.usageLog).usageLogs[i]? = s'.usageLogs[i]? :=
    fun i hne => List.getElem?_set_ne (Ne.symm hne)
  refine ⟨hsound, ?_, hs.rest, fun k hk' => ?_, fun row' hrow' => ?_, fun row' hrow' q hq => ?_,
    fun i hi' => ?_⟩
  · refine (Dict.keys_set_of_mem _ ?_).trans hs.keys
    exact Dict.mem_keys.mpr ⟨t, hcid ▸ hd.trace_at⟩
  · have hne : k ≠ row.traceId := fun heq => hk' row (by simp) heq.symm
    rw [hset, if_neg hne]
    exact hs.untouched k fun row' hrow' => hk' row' (List.mem_append_left _ hrow')
  · by_cases hsame : row'.traceId = row.traceId
    · rw [hset, if_pos hsame]
      by_cases hseen : ∃ row'' ∈ done, row''.traceId = row.traceId
      · obtain ⟨row'', hrow'', hsame''⟩ := hseen
        obtain ⟨first, hfirst, hfirstId, u, hu, hget'⟩ := hs.touched row'' hrow''
        rw [hsame'', hk, hd.trace_at] at hget'
        cases hget'
        refine ⟨first, List.mem_append_left _ hfirst, by rw [hfirstId, hsame'', hsame], t, hu, ?_⟩
        rw [ht ⟨row'', hrow'', hsame''⟩]
      · refine ⟨row, by simp, hsame.symm, c.trace, hfirst ?_, rfl⟩
        exact fun row'' hrow'' heq => hseen ⟨row'', hrow'', heq⟩
    · rcases List.mem_append.mp hrow' with hrow' | hrow'
      · rw [hset, if_neg hsame]
        obtain ⟨first, hfirst, hrest⟩ := hs.touched row' hrow'
        exact ⟨first, List.mem_append_left _ hfirst, hrest⟩
      · rw [List.mem_singleton.mp hrow'] at hsame
        exact absurd rfl hsame
  · rcases List.mem_append.mp hrow' with hrow' | hrow'
    · rw [hget _ (hi row' hrow')]
      exact hs.sealed row' hrow' q hq
    · rw [List.mem_singleton.mp hrow'] at hq ⊢
      rw [← hlog q hq]
      exact List.getElem?_set_self (List.getElem?_eq_some_iff.mp hd.log_at).1
  · rw [hget i fun heq => hi' row (by simp) heq.symm]
    exact hs.unsealed i fun row' hrow' => hi' row' (List.mem_append_left _ hrow')

end Settling

section Runs

variable {results : List MemoryRunResult} {r : MemoryRunResult}

-- what a batch is accepted on, row by row
structure Store.Accepts (py : Python) (s : Store) (rows : List CompletionRow) : Prop where
  mapped : s.Mapped rows
  nodup : (rows.map CompletionRow.logIndex).Nodup
  stageable : s.Stageable py rows
  logs : ∀ row ∈ rows, ∃ q, s.stageLog row = .ok q
  measured : ∀ row ∈ rows,
    validateMeasuredOutcome row.evalResult row.memoryCausedFailure = .ok ()

theorem evaluated_of_outcome {e : EvalResult} {b : Bool} (h : validateMeasuredOutcome e b = .ok ()) :
    e.evaluated = true := by
  simp only [validateMeasuredOutcome, validateMeasuredEvalResult, seq_eq_ok, raiseIf_eq_ok,
    Bool.not_eq_false] at h
  exact h.1

theorem completeMemoryRun_result (h : Sound py s') {i : Nat} {log : MemoryUsageLog} {t : Trace}
    (hd : s'.Decided r.decisionId i log t) {c : MemoryRunCompletion} :
    completeMemoryRun py t.traceId r.decisionId r.evalResult r.memoryCausedFailure r.arguments s' =
        .ok c s'' ↔ validateMeasuredOutcome r.evalResult r.memoryCausedFailure = .ok () ∧
      completedTraceCandidate py t r.evalResult (memoryRunResultCompletionValues r) =
        .ok c.trace ∧
      sealedUsageOutcomeCandidate log r.evalResult r.memoryCausedFailure = .ok c.usageLog ∧
      s'' = s'.completed i c.trace c.usageLog := by
  rw [completeMemoryRun_eq_ok h hd, completedTraceCandidate_perm (provided_arguments_perm r)
    (nodup_provided r.arguments)]

-- the trace now: the row's own, unless an earlier row has completed it already
theorem settled_candidate (h : Sound py s) (ha : s.Accepts py rows) (hu : s.Uniform py rows)
    (hs : s.Settled py done s') (hdone : done ⊆ rows) (hrow : row ∈ rows) {t' u : Trace}
    (ht' : s'.traces.get? row.traceId = some t') (hown : s.ownTrace py row = .ok u) :
    ∃ v, completedTraceCandidate py t' row.evalResult row.values = .ok v ∧
      ((∃ row' ∈ done, row'.traceId = row.traceId) → v = t') ∧
      ((∀ row' ∈ done, row'.traceId ≠ row.traceId) → v = u) := by
  obtain ⟨t, ht, hcompletion⟩ := ownTrace_spec h ha.mapped hrow hown
  have hcandidate : completedTraceCandidate py t row.evalResult row.values = .ok u := by
    obtain ⟨_, hat, hcandidate⟩ := bind_eq_ok.mp hown
    rw [demand_eq_ok, ht] at hat
    cases hat
    exact hcandidate
  by_cases hseen : ∃ row' ∈ done, row'.traceId = row.traceId
  · obtain ⟨row', hrow', hsame⟩ := hseen
    obtain ⟨first, hfirst, hfirstId, w, hw, hat⟩ := hs.touched row' hrow'
    rw [hsame, ht'] at hat
    cases hat
    obtain ⟨current, hcurrent, hfirstOwn⟩ := ownTrace_spec h ha.mapped (hdone hfirst) hw
    rw [hfirstId, hsame, ht] at hcurrent
    cases hcurrent
    refine ⟨t', ?_, fun _ => rfl, fun hnone => absurd hsame (hnone row' hrow')⟩
    have hequal := hu row hrow first (hdone hfirst) (hfirstId.trans hsame).symm _ _ hown hw
    obtain ⟨hresult, hslots⟩ := (pyEq_of_slots (hcompletion.identity.trans hfirstOwn.identity.symm)
      hcompletion.comparable).mp hequal
    exact completed_again (ha.mapped.fields row hrow) (ha.mapped.values row hrow)
      (mapped_of_identity (ha.mapped.traces row hrow _ ht) hfirstOwn.identity (hfirstOwn.mapped _))
      hfirstOwn.valid (hresult.symm.trans hcompletion.result)
      (evaluated_of_outcome (ha.measured row hrow)) hfirstOwn.identity hcandidate fun v hv =>
        CompletionValue.pyEq_trans (hcompletion.provided v hv) (hslots v.field)
  · have hat := hs.untouched row.traceId fun row' hrow' heq => hseen ⟨row', hrow', heq⟩
    rw [ht', ht] at hat
    cases hat
    exact ⟨u, hcandidate, fun hsome => absurd hsome hseen, fun _ => rfl⟩

theorem settled_completed (h : Sound py s) (ha : s.Accepts py rows) (hu : s.Uniform py rows)
    (hs : s.Settled py done s') (hdone : done ⊆ rows) (hrow : row ∈ rows)
    (hr : s.resultRow r = .ok row) (hi : ∀ row' ∈ done, row'.logIndex ≠ row.logIndex) :
    ∃ c s'', s'.resultRow r = .ok row ∧
      completeMemoryRun py row.traceId r.decisionId r.evalResult r.memoryCausedFailure
        r.arguments s' = .ok c s'' ∧
      s.Settled py (done ++ [row]) s'' ∧ c.trace.evalResult.evaluated = true ∧
      s''.traces.get? row.traceId = some c.trace ∧ s.stageLog row = .ok (row.logIndex, c.usageLog) := by
  obtain ⟨i, log, t, hd, hshape⟩ := (resultRow_eq_ok h).mp hr
  have hindex : row.logIndex = i := by rw [hshape]
  have hk : row.traceId = t.traceId := by rw [hshape]
  have hmeasured := ha.measured row hrow
  have hcandidate : ∀ t', completedTraceCandidate py t' row.evalResult row.values =
      completedTraceCandidate py t' r.evalResult (memoryRunResultCompletionValues r) := by
    intro t'
    rw [hshape]
  have hseal : ∀ log, sealedUsageOutcomeCandidate log row.evalResult row.memoryCausedFailure =
      sealedUsageOutcomeCandidate log r.evalResult r.memoryCausedFailure := by
    intro log
    rw [hshape]
  have hmeasured' : validateMeasuredOutcome r.evalResult r.memoryCausedFailure = .ok () := by
    rw [hshape] at hmeasured
    exact hmeasured
  subst hindex
  obtain ⟨u, hown⟩ := ha.stageable.candidates row hrow
  obtain ⟨t', hd', hid⟩ := hs.decided hd hi
  obtain ⟨q, hq⟩ := ha.logs row hrow
  obtain ⟨log', rfl, hsealed⟩ := (stageLog_eq_ok hd).mp hq
  have hat : s'.traces.get? row.traceId = some t' := by
    rw [hk, ← hid]
    exact hd'.trace_at
  obtain ⟨v, hv, hagain, hfirst⟩ := settled_candidate h ha hu hs hdone hrow hat hown
  have hvid : v.traceId = t'.traceId := traceId_of_identity (completes_of_candidate hv).1.1
  rw [hcandidate] at hv
  rw [hseal] at hsealed
  have hrun : completeMemoryRun py t'.traceId r.decisionId r.evalResult r.memoryCausedFailure
      r.arguments s' = .ok ⟨v, log'⟩ (s'.completed row.logIndex v log') :=
    (completeMemoryRun_result hs.sound hd').mpr ⟨hmeasured', hv, hsealed, rfl⟩
  have hk' : row.traceId = t'.traceId := hk.trans hid.symm
  refine ⟨⟨v, log'⟩, s'.completed row.logIndex v log', ?_, hk' ▸ hrun, ?_,
    measured_of_candidate (evaluated_of_outcome hmeasured') hv, ?_, hq⟩
  · exact (resultRow_eq_ok hs.sound).mpr ⟨row.logIndex, log, t', hd', by rw [← hk', hshape]⟩
  · refine hs.step (c := ⟨v, log'⟩) hd' hk' hi hvid ?_
      (sound_effect hs.sound (completeMemoryRun_effect hrun)) hagain fun hnone => ?_
    · intro q hq'
      rw [hq] at hq'
      cases hq'
      rfl
    · rw [hfirst hnone]
      exact hown
  · rw [Store.completed, hvid, ← hk']
    exact Dict.get?_set_self _ _ _

theorem completeEach_effects {out : List MemoryRunCompletion}
    (h : completeEach py results s = .ok out s') : Effects py s s' := by
  induction results generalizing s out with
  | nil =>
    obtain ⟨_, rfl⟩ := run_pure_eq_ok.mp h
    exact .refl
  | cons r results ih =>
    simp only [completeEach, run_bind_eq_ok, run_inspect_eq_ok, run_pure_eq_ok] at h
    obtain ⟨row, _, ⟨_, rfl⟩, c, s₁, hc, rest, s₂, hrest, _, rfl⟩ := h
    exact .head (completeMemoryRun_effect hc) (ih hrest)

theorem completion_of {d : Str} {i : Nat} {log : MemoryUsageLog} {t : Trace} {k : Str}
    (hi : s.usageLogIndexes.get? d = some i) (hlog : s.usageLogs[i]? = some log)
    (hid : log.traceId = some k) (ht : s.traces.get? k = some t) :
    s.completion? d = some ⟨t, log⟩ := by
  simp only [Store.completion?, hi, hlog, hid, Option.getD_some, ht, Option.bind_eq_bind,
    Option.bind_some]
  rfl

theorem stageLog_traceId (h : Sound py s) (hr : s.resultRow r = .ok row) {log : MemoryUsageLog}
    (hl : s.stageLog row = .ok (row.logIndex, log)) : log.traceId = some row.traceId := by
  obtain ⟨i, log', t, hd, rfl⟩ := (resultRow_eq_ok h).mp hr
  obtain ⟨sealed, hq, hsealed⟩ := (stageLog_eq_ok hd).mp hl
  obtain rfl := (Prod.mk.inj hq).2
  exact (seals_of_candidate hsealed).traceId.trans hd.trace_id

theorem completeEach_settled (h : Sound py s) (ha : s.Accepts py rows) (hu : s.Uniform py rows)
    {rest : List CompletionRow} (hrest : List.Forall₂ (fun r row => s.resultRow r = .ok row) results rest)
    (hsub : done ++ rest ⊆ rows) (hn : ((done ++ rest).map CompletionRow.logIndex).Nodup)
    (hs : s.Settled py done s') :
    ∃ out s'', completeEach py results s' = .ok out s'' ∧ s.Settled py (done ++ rest) s'' ∧
      s''.Answers results out := by
  induction hrest generalizing done s' with
  | nil =>
    refine ⟨[], s', rfl, ?_, rfl⟩
    rwa [List.append_nil]
  | @cons r row results rest hr _ ih =>
    have hassoc : done ++ [row] ++ rest = done ++ row :: rest := by simp
    have hi : ∀ row' ∈ done, row'.logIndex ≠ row.logIndex := by
      intro row' hrow' heq
      rw [List.map_append, List.nodup_append] at hn
      exact hn.2.2 _ (List.mem_map_of_mem hrow') _ (by simp) heq
    obtain ⟨c, s₁, hrow, hc, hs₁, hmeasured, htrace, hlog⟩ := settled_completed h ha hu hs
      (List.append_subset.mp hsub).1 (hsub (by simp)) hr hi
    rw [← hassoc] at hsub hn
    obtain ⟨out, s₂, hout, hs₂, hanswers⟩ := ih hsub hn hs₁
    refine ⟨c :: out, s₂, ?_, hassoc ▸ hs₂, ?_⟩
    · simp only [completeEach, run_bind_eq_ok, run_inspect_eq_ok, run_pure_eq_ok]
      exact ⟨row, s', ⟨hrow, rfl⟩, c, s₁, hc, out, s₂, hout, rfl, rfl⟩
    · have hkept := measured_kept (completeEach_effects hout) htrace hmeasured
      have hlogAt := hs₂.sealed row (by simp) _ hlog
      have hindexes : s₂.usageLogIndexes = s.usageLogIndexes := by
        have hsame := congrArg Store.usageLogIndexes hs₂.rest
        exact hsame
      obtain ⟨i, log, t, hd, hshape⟩ := (resultRow_eq_ok h).mp hr
      have hindex : s₂.usageLogIndexes.get? r.decisionId = some row.logIndex := by
        rw [hindexes, hshape]
        exact hd.index_at
      rw [Store.Answers, List.map_cons, List.map_cons, hanswers,
        completion_of hindex hlogAt (stageLog_traceId h hr hlog) hkept]

end Runs

section Agreement

variable {staged : StagedCompletions}

theorem settled_agrees (h : Sound py s) (hm : s.TracesMapped) (ha : s.Accepts py rows) (hu : s.Uniform py rows)
    (hg : s.Grounded rows) (ho : s.StagedOutcome py rows staged) (hp : rows.Perm done)
    (hs : s.Settled py done s') : (s.written staged).Agrees s' := by
  have hlogs : (s.written staged).usageLogs = s'.usageLogs := by
    refine List.ext_getElem? fun i => ?_
    rw [getElem?_written_logs hg ho]
    cases hi : staged.logs.get? i with
    | some log =>
      obtain ⟨row, hrow, hlog⟩ := (ho.logs i log).mp hi
      cases stageLog_key hlog
      exact (hs.sealed row (hp.mem_iff.mp hrow) _ hlog).symm
    | none =>
      rw [Option.none_or, hs.unsealed i]
      intro row hrow heq
      obtain ⟨⟨j, log⟩, hlog⟩ := ha.logs row (hp.mem_iff.mpr hrow)
      have hsome := (ho.logs j log).mpr ⟨row, hp.mem_iff.mpr hrow, hlog⟩
      have hkey : j = row.logIndex := stageLog_key hlog
      rw [hkey, heq, hi] at hsome
      cases hsome
  refine ⟨hs.keys.trans (keys_written ho).symm, fun k t t' ht ht' => ?_, ?_⟩
  · rw [get?_written_traces] at ht
    by_cases hk : ∃ row ∈ rows, row.traceId = k
    · obtain ⟨row, hrow, rfl⟩ := hk
      obtain ⟨u, hu'⟩ := ho.covered row hrow
      rw [hu', Option.some_or] at ht
      cases ht
      obtain ⟨first, hfirst, hfirstId, v, hv, hat⟩ := hs.touched row (hp.mem_iff.mp hrow)
      rw [ht'] at hat
      cases hat
      have hjoint := (ho.joint _ _ hu').2
      obtain ⟨current, hcurrent, hown⟩ := ownTrace_spec h ha.mapped (hp.mem_iff.mpr hfirst) hv
      obtain ⟨current', hcurrent', hidentity, hslots⟩ := hjoint.source
      rw [hfirstId, hcurrent'] at hcurrent
      cases hcurrent
      refine (pyEq_of_slots (hidentity.trans hown.identity.symm) hjoint.comparable).mpr ⟨?_, fun f => ?_⟩
      · rw [hown.result]
        exact hjoint.result first (hp.mem_iff.mpr hfirst) hfirstId
      · rcases hslots f with ⟨w, hw, rfl, hslot⟩ | ⟨hnone, hslot⟩
        · obtain ⟨row', hrow', hid', hw⟩ := mem_evidenceFor.mp hw
          obtain ⟨v', hv'⟩ := ha.stageable.candidates row' hrow'
          obtain ⟨_, hat, hown'⟩ := ownTrace_spec h ha.mapped hrow' hv'
          rw [hid', hcurrent'] at hat
          cases hat
          obtain ⟨_, hwslot⟩ := (mem_ownEvidence hv').mp hw
          have hsame := hu row' hrow' first (hp.mem_iff.mpr hfirst) (hid'.trans hfirstId.symm) _ _ hv' hv
          have hslots' := ((pyEq_of_slots (hown'.identity.trans hown.identity.symm)
            hown'.comparable).mp hsame).2 w.field
          rw [hslot, hwslot, field_slot]
          exact hslots'
        · have hself := hjoint.comparable.slots f
          rw [hown.kept f, ← hslot]
          · exact hself
          · intro hf
            obtain ⟨w, hw, rfl⟩ := List.mem_map.mp hf
            refine hnone (t'.slot w.field) (mem_evidenceFor.mpr
              ⟨first, hp.mem_iff.mpr hfirst, hfirstId, (mem_ownEvidence hv).mpr ?_⟩) (field_slot _ _)
            rw [field_slot]
            exact ⟨List.mem_map_of_mem hw, rfl⟩
    · have hnone : staged.traces.get? k = none := by
        rw [Option.eq_none_iff_forall_ne_some]
        exact fun u hu' => hk (ho.joint k u hu').1
      have hat := hs.untouched k fun row hrow heq => hk ⟨row, hp.mem_iff.mpr hrow, heq⟩
      rw [hnone, Option.none_or] at ht
      rw [hat, ht] at ht'
      cases ht'
      exact comparable_stored h hm ht
  · have hrest := congrArg (fun base : Store => { base with
      traces := (s.written staged).traces
      usageLogs := s'.usageLogs }) hs.rest
    refine hrest.trans ?_
    rw [← hlogs]
    rfl

end Agreement

section Necessity

variable {results : List MemoryRunResult} {r r' : MemoryRunResult}

theorem second_provided (h : Sound py s) (ha : s.Accepts py rows) (hrow : row ∈ rows)
    (hrow' : row' ∈ rows) (hr : s.resultRow r = .ok row) (hr' : s.resultRow r' = .ok row')
    (hk : row.traceId = row'.traceId) (hne : r.decisionId ≠ r'.decisionId) {t : Trace}
    (ht : s.ownTrace py row = .ok t) {out : List MemoryRunCompletion}
    (hrun : completeEach py (r :: r' :: results) s = .ok out s') :
    ∀ v ∈ row'.values, v.pyEq (t.slot v.field) = true := by
  simp only [completeEach, run_bind_eq_ok, run_inspect_eq_ok] at hrun
  obtain ⟨_, _, ⟨hfirst, rfl⟩, c, s₁, hc, _, _, ⟨row₂, _, ⟨hsecond, rfl⟩, c', s₂, hc', _⟩, _⟩ := hrun
  rw [hr] at hfirst
  cases hfirst
  obtain ⟨i, log, current, hd, hshape⟩ := (resultRow_eq_ok h).mp hr
  obtain ⟨i', log', current', hd', hshape'⟩ := (resultRow_eq_ok h).mp hr'
  have hkey : row.traceId = current.traceId := by rw [hshape]
  have hindex : row.logIndex = i := by rw [hshape]
  have hindex' : row'.logIndex = i' := by rw [hshape']
  subst hindex
  subst hindex'
  rw [hkey, completeMemoryRun_result h hd] at hc
  obtain ⟨hmeasured, hcandidate, hsealed, rfl⟩ := hc
  have hown : c.trace = t := by
    obtain ⟨_, hat, hown⟩ := bind_eq_ok.mp ht
    rw [demand_eq_ok, hkey, hd.trace_at] at hat
    cases hat
    rw [hshape, hcandidate] at hown
    exact Except.ok.inj hown
  have hcid : c.trace.traceId = current.traceId :=
    traceId_of_identity (completes_of_candidate hcandidate).1.1
  have hrun : completeMemoryRun py current.traceId r.decisionId r.evalResult r.memoryCausedFailure
      r.arguments s = .ok c (s.completed row.logIndex c.trace c.usageLog) :=
    (completeMemoryRun_result h hd).mpr ⟨hmeasured, hcandidate, hsealed, rfl⟩
  have hsound := sound_effect h (completeMemoryRun_effect hrun)
  have hsettled : s.Settled py [row] (s.completed row.logIndex c.trace c.usageLog) := by
    refine (settled_start h).step hd hkey (by simp) hcid (fun q hq => ?_) hsound (by simp)
      fun _ => hown ▸ ht
    obtain ⟨sealed, rfl, hsealed'⟩ := (stageLog_eq_ok hd).mp hq
    rw [hshape, hsealed] at hsealed'
    exact Except.ok.inj hsealed'
  have hdistinct : ∀ row₀ ∈ [row], row₀.logIndex ≠ row'.logIndex := by
    intro row₀ hrow₀ heq
    rw [List.mem_singleton.mp hrow₀] at heq
    exact hne (hd.index_unique (heq ▸ hd'))
  obtain ⟨t', hnow, hid⟩ := hsettled.decided hd' hdistinct
  have hkey' : row'.traceId = current'.traceId := by rw [hshape']
  have hsame : t' = t := by
    have hat := hnow.trace_at
    rw [hid, ← hkey', ← hk, hkey, ← hcid, Store.completed, Dict.get?_set_self] at hat
    rw [← hown]
    exact (Option.some.inj hat).symm
  obtain ⟨_, _, _, hnow', hshape₂⟩ := (resultRow_eq_ok hsound).mp hsecond
  have hkey₂ : row₂.traceId = t'.traceId := by
    rw [hshape₂, (hnow.unique hnow').2.2]
  rw [hkey₂, completeMemoryRun_result hsound hnow] at hc'
  obtain ⟨_, hagain, _, _⟩ := hc'
  obtain ⟨current₀, hat, hcompletion⟩ := ownTrace_spec h ha.mapped hrow ht
  have htm : t'.Mapped := by
    rw [hsame]
    exact mapped_of_identity (ha.mapped.traces row hrow _ hat) hcompletion.identity (hcompletion.mapped _)
  have hsealed' : t'.evalResult.evaluated = true := by
    rw [hsame, hcompletion.result]
    exact evaluated_of_outcome (ha.measured row hrow)
  have hagain' : completedTraceCandidate py t' row'.evalResult row'.values = .ok c'.trace := by
    rw [hshape']
    exact hagain
  rw [← hsame]
  exact (provided_of_accepted (ha.mapped.fields row' hrow') (ha.mapped.values row' hrow') htm
    hsealed' hagain').2

theorem pyEq_of_provided {current t t' : Trace} (ht : OwnCompletion py row current t)
    (ht' : OwnCompletion py row' current t') (hr : row.evalResult = row'.evalResult)
    (hopen : current.evalResult.evaluated = false) (hvalues' : ∀ v ∈ row'.values, v.Mapped)
    (h : ∀ v ∈ row.values, v.pyEq (t'.slot v.field) = true)
    (h' : ∀ v ∈ row'.values, v.pyEq (t.slot v.field) = true) : t.pyEq t' = true := by
  refine (pyEq_of_slots (ht.identity.trans ht'.identity.symm) ht.comparable).mpr
    ⟨by rw [ht.result, ht'.result, hr], fun f => ?_⟩
  by_cases hf : f ∈ row.values.map CompletionValue.field
  · obtain ⟨v, hv, rfl⟩ := List.mem_map.mp hf
    rw [ht.written hopen v hv]
    exact h v hv
  · by_cases hf' : f ∈ row'.values.map CompletionValue.field
    · obtain ⟨v, hv, rfl⟩ := List.mem_map.mp hf'
      rw [ht'.written hopen v hv]
      exact CompletionValue.pyEq_symm (hvalues' v hv) (h' v hv)
    · have hself := ht.comparable.slots f
      rw [ht'.kept f hf', ← ht.kept f hf]
      exact hself

end Necessity

section Orders

variable {results : List MemoryRunResult}

-- results on one trace each complete it, on their own, to equal traces
def Store.SameEvidence (py : Python) (s : Store) (results : List MemoryRunResult) : Prop :=
  ∀ r ∈ results, ∀ r' ∈ results, ∀ row row', s.resultRow r = .ok row → s.resultRow r' = .ok row' →
    row.traceId = row'.traceId → ∀ t t', s.ownTrace py row = .ok t → s.ownTrace py row' = .ok t' →
      t.pyEq t' = true

theorem uniform_iff (hr : collect s.resultRow results = .ok rows) :
    s.Uniform py rows ↔ s.SameEvidence py results := by
  constructor
  · intro h r hmem r' hmem' row row' hrow hrow' hk t t' ht ht'
    obtain ⟨a, ha, hra⟩ := mem_of_forall₂ (collect_eq_ok.mp hr) hmem
    obtain ⟨b, hb, hrb⟩ := mem_of_forall₂ (collect_eq_ok.mp hr) hmem'
    rw [hrow] at hra
    rw [hrow'] at hrb
    cases hra
    cases hrb
    exact h _ ha _ hb hk t t' ht ht'
  · intro h row hrow row' hrow' hk t t' ht ht'
    obtain ⟨r, hmem, hr₁⟩ := collect_mem hr hrow
    obtain ⟨r', hmem', hr₂⟩ := collect_mem hr hrow'
    exact h r hmem r' hmem' row row' hr₁ hr₂ hk t t' ht ht'

theorem accepts_of_batch (h : Sound py s) (hs : s.TracesMapped) (hm : ∀ r ∈ results, r.Mapped)
    (hv : validatedMemoryRunResults results = .ok ()) (hr : collect s.resultRow results = .ok rows)
    {staged : StagedCompletions} (hstage : s.stageMemoryRunCompletions py rows = .ok staged) :
    s.Accepts py rows ∧ s.StagedOutcome py rows staged := by
  obtain ⟨_, _, heach, hn⟩ := validatedMemoryRunResults_eq_ok.mp hv
  have hindexes := nodup_indexes h hn hr
  have hmapped := mapped_of_results h hs hm hr
  obtain ⟨hstageable, hlogs, ho⟩ := stage_outcome h hmapped hindexes hstage
  refine ⟨⟨hmapped, hindexes, hstageable, hlogs, fun row hrow => ?_⟩, ho⟩
  obtain ⟨r, hmem, hrow⟩ := collect_mem hr hrow
  obtain ⟨_, _, _, _, rfl⟩ := (resultRow_eq_ok h).mp hrow
  have heach' := heach r hmem
  simp only [validateMemoryRunResult, seq_eq_ok] at heach'
  exact heach'.2

theorem each_of_batch (h : Sound py s) (hs : s.TracesMapped) (hm : ∀ r ∈ results, r.Mapped)
    {out : List MemoryRunCompletion} (hr : completeMemoryRuns py results s = .ok out s')
    (hsame : s.SameEvidence py results) {l : List MemoryRunResult} (hp : results.Perm l) :
    ∃ out' s'', completeEach py l s = .ok out' s'' ∧ s'.Agrees s'' ∧ s''.Answers l out' := by
  obtain ⟨hv, rows, hrows, staged, hstage, rfl, rfl⟩ := completeMemoryRuns_eq_ok.mp hr
  obtain ⟨ha, ho⟩ := accepts_of_batch h hs hm hv hrows hstage
  obtain ⟨rows', hrows', hperm⟩ := collect_perm hp hrows
  have hu := (uniform_iff hrows).mpr hsame
  have hsub : [] ++ rows' ⊆ rows := fun row hrow => hperm.mem_iff.mpr hrow
  obtain ⟨out', s'', hrun, hsettled, hanswers⟩ := completeEach_settled h ha hu
    (collect_eq_ok.mp hrows') hsub ((hperm.map CompletionRow.logIndex).nodup_iff.mp ha.nodup)
    (settled_start h)
  refine ⟨out', s'', hrun, ?_, hanswers⟩
  exact settled_agrees h hs ha hu (grounded_of_results h hrows) ho hperm hsettled

theorem exists_front {α : Type} {l : List α} {a b : α} (ha : a ∈ l) (hb : b ∈ l) (hne : a ≠ b) :
    ∃ rest, l.Perm (a :: b :: rest) := by
  obtain ⟨before, after, rfl⟩ := List.append_of_mem ha
  have hfirst : (before ++ a :: after).Perm (a :: (before ++ after)) := List.perm_middle
  have hother : b ∈ before ++ after := by
    rcases List.mem_cons.mp (hfirst.mem_iff.mp hb) with heq | hother
    · exact absurd heq.symm hne
    · exact hother
  obtain ⟨before', after', hsplit⟩ := List.append_of_mem hother
  refine ⟨before' ++ after', hfirst.trans ?_⟩
  rw [hsplit]
  exact List.perm_middle.cons a

theorem sameEvidence_of_each (h : Sound py s) (hs : s.TracesMapped) (hm : ∀ r ∈ results, r.Mapped)
    {out : List MemoryRunCompletion} (hr : completeMemoryRuns py results s = .ok out s')
    (heach : ∀ l, results.Perm l → ∃ out' s'', completeEach py l s = .ok out' s'') :
    s.SameEvidence py results := by
  obtain ⟨hv, rows, hrows, staged, hstage, rfl, rfl⟩ := completeMemoryRuns_eq_ok.mp hr
  obtain ⟨ha, ho⟩ := accepts_of_batch h hs hm hv hrows hstage
  intro r hmem r' hmem' row row' hrow hrow' hk t t' ht ht'
  obtain ⟨a, hamem, hra⟩ := mem_of_forall₂ (collect_eq_ok.mp hrows) hmem
  obtain ⟨b, hbmem, hrb⟩ := mem_of_forall₂ (collect_eq_ok.mp hrows) hmem'
  rw [hrow] at hra
  rw [hrow'] at hrb
  cases hra
  cases hrb
  obtain ⟨current, hcurrent, hown⟩ := ownTrace_spec h ha.mapped hamem ht
  obtain ⟨current', hcurrent', hown'⟩ := ownTrace_spec h ha.mapped hbmem ht'
  rw [← hk, hcurrent] at hcurrent'
  cases hcurrent'
  have hself : t.pyEq t = true := (pyEq_of_slots rfl hown.comparable).mpr ⟨rfl, hown.comparable.slots⟩
  cases hsealed : current.evalResult.evaluated with
  | true =>
    rw [hown'.sealed hsealed, ← hown.sealed hsealed]
    exact hself
  | false =>
    have hn := (validatedMemoryRunResults_eq_ok.mp hv).2.2.2
    by_cases hne : r.decisionId = r'.decisionId
    · have hsame := List.inj_on_of_nodup_map hn hmem hmem' hne
      subst hsame
      rw [hrow] at hrow'
      cases hrow'
      rw [ht] at ht'
      cases ht'
      exact hself
    · -- each of the two is tried right after the other
      obtain ⟨rest, hfront⟩ := exists_front hmem hmem' fun heq => hne (by rw [heq])
      obtain ⟨_, _, hrun⟩ := heach _ hfront
      obtain ⟨_, _, hrun'⟩ := heach _ (hfront.trans (List.Perm.swap _ _ _))
      exact pyEq_of_provided hown hown' (ha.stageable.outcomes row hamem row' hbmem hk) hsealed
        (ha.mapped.values row' hbmem)
        (second_provided h ha hbmem hamem hrow' hrow hk.symm (Ne.symm hne) ht' hrun')
        (second_provided h ha hamem hbmem hrow hrow' hk hne ht hrun)

theorem batch_equals_each_order (h : Reachable py s) (hs : s.TracesMapped)
    (hm : ∀ r ∈ results, r.Mapped) :
    (∀ e s', completeMemoryRuns py results s = .error e s' → s' = s) ∧
    ∀ out s', completeMemoryRuns py results s = .ok out s' → s'.Answers results out ∧
      (∀ l, results.Perm l → ∃ out' s'', completeMemoryRuns py l s = .ok out' s'' ∧ s'.Agrees s'' ∧
        s''.Answers l out') ∧
      (s.SameEvidence py results → ∀ l, results.Perm l → ∃ out' s'',
        completeEach py l s = .ok out' s'' ∧ s'.Agrees s'' ∧ s''.Answers l out') ∧
      ((∀ l, results.Perm l → ∃ out' s'', completeEach py l s = .ok out' s'') →
        s.SameEvidence py results) := by
  have hsound := h.sound
  refine ⟨atomic_completeMemoryRuns results s, fun out s' hr => ⟨?_, ?_, ?_, ?_⟩⟩
  · obtain ⟨hv, rows, hrows, staged, hstage, rfl, rfl⟩ := completeMemoryRuns_eq_ok.mp hr
    exact written_answers hsound hrows (accepts_of_batch hsound hs hm hv hrows hstage).2
  · exact fun l hp => completeMemoryRuns_perm hsound hs hm hp hr
  · exact fun hsame l hp => each_of_batch hsound hs hm hr hsame hp
  · exact sameEvidence_of_each hsound hs hm hr

def sharedResults : List MemoryRunResult :=
  [{ decisionId := lit "decision_1", evalResult := .pass, latencyMs := some 5 },
    { decisionId := lit "decision_2", evalResult := .pass, outputHash := some (lit "hash") }]

theorem sharedStore_tracesMapped : sharedStore.TracesMapped :=
  tracesMapped_of_bare (by decide +kernel)

set_option maxRecDepth 20000 in
theorem sharedResults_accepted :
    returns (completeMemoryRuns asciiPython sharedResults sharedStore) = true := by decide +kernel

set_option maxRecDepth 20000 in
theorem sharedResults_refused :
    returns (completeEach asciiPython sharedResults sharedStore) = false := by decide +kernel

theorem batch_equals_each_order_shared : ∃ out s',
    completeMemoryRuns asciiPython sharedResults sharedStore = .ok out s' ∧
      s'.Answers sharedResults out ∧
      ∀ l, sharedResults.Perm l → ∃ out' s'', completeMemoryRuns asciiPython l sharedStore = .ok out' s'' ∧
        s'.Agrees s'' ∧ s''.Answers l out' := by
  obtain ⟨out, s', hr⟩ := exists_of_returns sharedResults_accepted
  have hm : ∀ r ∈ sharedResults, r.Mapped := by simp [sharedResults, MemoryRunResult.Mapped]
  obtain ⟨_, hbatch⟩ := batch_equals_each_order sharedStore_reachable sharedStore_tracesMapped hm
  exact ⟨out, s', hr, (hbatch out s' hr).1, (hbatch out s' hr).2.1⟩

-- disjoint evidence for one trace: the batch merges it, the second single call is refused
theorem batch_merges_what_single_calls_refuse : Reachable asciiPython sharedStore ∧
    (∃ out s', completeMemoryRuns asciiPython sharedResults sharedStore = .ok out s') ∧
      ∃ e s', completeEach asciiPython sharedResults sharedStore = .error e s' :=
  ⟨sharedStore_reachable, exists_of_returns sharedResults_accepted,
    exists_of_not_returns sharedResults_refused⟩

end Orders

end TraceBackedMemory
