import Mathlib.Data.List.Perm.Basic
import TraceBackedMemory.Foundation.DictValues
import TraceBackedMemory.Store.Decisions
import TraceBackedMemory.Store.Atomicity

namespace TraceBackedMemory

open Text Raising

variable {py : Python} {s s' s'' : Store} {rows rows' : List CompletionRow}

section Written

def Store.written (s : Store) (staged : StagedCompletions) : Store :=
  { s with
    traces := s.traces.update staged.traces.entries
    usageLogs := setLogs s.usageLogs staged.logs.entries }

-- the two stores hold the same records, traces compared as Python compares them
structure Store.Agrees (s s' : Store) : Prop where
  keys : s'.traces.keys = s.traces.keys
  traces : ∀ k t t', s.traces.get? k = some t → s'.traces.get? k = some t' → t.pyEq t' = true
  rest : { s' with traces := s.traces } = s

def Store.completion? (s : Store) (decisionId : Str) : Option MemoryRunCompletion := do
  let index ← s.usageLogIndexes.get? decisionId
  let log ← s.usageLogs[index]?
  let t ← s.traces.get? (log.traceId.getD [])
  return ⟨t, log⟩

-- the call answers each request with what the store holds for it afterwards
def Store.Answers (s : Store) (results : List MemoryRunResult) (out : List MemoryRunCompletion) :
    Prop :=
  out.map some = results.map (fun r => s.completion? r.decisionId)

theorem getElem?_setLogs {logs : List MemoryUsageLog} {sealed : List (Nat × MemoryUsageLog)}
    (hn : (sealed.map Prod.fst).Nodup) (hi : ∀ p ∈ sealed, p.1 < logs.length) (i : Nat) :
    (setLogs logs sealed)[i]? = (Dict.lookupIn i sealed).or logs[i]? := by
  induction sealed generalizing logs with
  | nil => simp [setLogs, Dict.lookupIn]
  | cons p sealed ih =>
    obtain ⟨j, log⟩ := p
    simp only [List.map_cons, List.nodup_cons] at hn
    have hj := hi (j, log) (by simp)
    have hset : setLogs logs ((j, log) :: sealed) = setLogs (logs.set j log) sealed := rfl
    rw [hset, ih hn.2 (by simpa using fun a b hab => hi (a, b) (List.mem_cons_of_mem _ hab)),
      Dict.lookupIn]
    by_cases hij : j = i
    · subst hij
      have hnone : Dict.lookupIn j sealed = none := Dict.lookupIn_eq_none.mpr hn.1
      simp [hnone, List.getElem?_set_self hj]
    · rw [if_neg hij, List.getElem?_set_ne hij]

theorem writeCompletions_eq_ok {staged : StagedCompletions} {u : Unit} :
    writeCompletions staged s = .ok u s' ↔ s' = s.written staged := by
  simp only [writeCompletions, run_bind_eq_ok, run_assign_eq_ok]
  constructor
  · rintro ⟨_, _, rfl, rfl⟩
    rfl
  · rintro rfl
    exact ⟨(), _, rfl, rfl⟩

theorem completeMemoryRuns_eq_ok {results : List MemoryRunResult} {out : List MemoryRunCompletion} :
    completeMemoryRuns py results s = .ok out s' ↔ validatedMemoryRunResults results = .ok () ∧
      ∃ rows, collect s.resultRow results = .ok rows ∧
      ∃ staged, s.stageMemoryRunCompletions py rows = .ok staged ∧ out = staged.completions ∧
        s' = s.written staged := by
  simp only [completeMemoryRuns, Store.stagedResults, run_bind_eq_ok, run_inspect_eq_ok,
    run_pure_eq_ok, writeCompletions_eq_ok, bind_eq_ok, exists_unit]
  constructor
  · rintro ⟨staged, _, ⟨⟨hv, rows, hrows, hstage⟩, rfl⟩, _, rfl, rfl, rfl⟩
    exact ⟨hv, rows, hrows, staged, hstage, rfl, rfl⟩
  · rintro ⟨hv, rows, hrows, staged, hstage, rfl, rfl⟩
    exact ⟨staged, s, ⟨⟨hv, rows, hrows, hstage⟩, rfl⟩, _, rfl, rfl, rfl⟩

theorem recoverMemoryRuns_eq_ok {ids : List Str} {attributions : Dict Str Bool}
    {out : List MemoryRunCompletion} : recoverMemoryRuns py ids attributions s = .ok out s' ↔
      validatedBatchRecoveryDecisionIds ids = .ok () ∧
      validatedBatchRecoveryAttributions attributions ids = .ok () ∧
      ∃ rows, collect (s.recoveryRow attributions) ids = .ok rows ∧
      ∃ staged, s.stageMemoryRunCompletions py rows = .ok staged ∧ out = staged.completions ∧
        s' = s.written staged := by
  simp only [recoverMemoryRuns, Store.stagedRecoveries, run_bind_eq_ok, run_inspect_eq_ok,
    run_pure_eq_ok, writeCompletions_eq_ok, bind_eq_ok, exists_unit]
  constructor
  · rintro ⟨staged, _, ⟨⟨hids, hattributions, rows, hrows, hstage⟩, rfl⟩, _, rfl, rfl, rfl⟩
    exact ⟨hids, hattributions, rows, hrows, staged, hstage, rfl, rfl⟩
  · rintro ⟨hids, hattributions, rows, hrows, staged, hstage, rfl, rfl⟩
    exact ⟨staged, s, ⟨⟨hids, hattributions, rows, hrows, hstage⟩, rfl⟩, _, rfl, rfl, rfl⟩

end Written

section Rows

-- the row speaks of this decision, and of the trace that decision belongs to
def Store.RowOf (s : Store) (decisionId : Str) (row : CompletionRow) : Prop :=
  ∃ log t, s.Decided decisionId row.logIndex log t ∧ row.traceId = t.traceId

def Store.Grounded (s : Store) (rows : List CompletionRow) : Prop :=
  ∀ row ∈ rows, ∃ d, s.RowOf d row

theorem grounded_of_rowOf {ids : List Str} (h : List.Forall₂ s.RowOf ids rows) : s.Grounded rows := by
  intro row hrow
  obtain ⟨d, _, hd⟩ := exists_of_forall₂ h hrow
  exact ⟨d, hd⟩

theorem nodup_of_rowOf {ids : List Str} (hn : ids.Nodup) (h : List.Forall₂ s.RowOf ids rows) :
    (rows.map CompletionRow.logIndex).Nodup := by
  induction h with
  | nil => exact List.nodup_nil
  | @cons d row ids rows hrow htail ih =>
    simp only [List.map_cons, List.nodup_cons] at hn ⊢
    refine ⟨fun hmem => ?_, ih hn.2⟩
    obtain ⟨row', hrow', hindex⟩ := List.mem_map.mp hmem
    obtain ⟨d', hd', log', t', hdecided', _⟩ := exists_of_forall₂ htail hrow'
    obtain ⟨log, t, hdecided, _⟩ := hrow
    rw [hindex] at hdecided'
    exact hn.1 (hdecided.index_unique hdecided' ▸ hd')

theorem resultRow_eq_ok (h : Sound py s) {r : MemoryRunResult} {row : CompletionRow} :
    s.resultRow r = .ok row ↔ ∃ i log t, s.Decided r.decisionId i log t ∧
      row = ⟨i, t.traceId, r.evalResult, r.memoryCausedFailure,
        memoryRunResultCompletionValues r⟩ := by
  simp only [Store.resultRow, Store.usageLogIndex, Store.usageLogAt, bind_eq_ok, demand_eq_ok,
    pure_eq_ok]
  constructor
  · rintro ⟨i, hi, log, hlog, rfl⟩
    obtain ⟨log', t, hd⟩ := decided_of_index h hi
    have hsame := hd.log_at
    rw [hlog] at hsame
    cases hsame
    exact ⟨i, log, t, hd, by rw [hd.trace_id]; rfl⟩
  · rintro ⟨i, log, t, hd, rfl⟩
    exact ⟨i, hd.index_at, log, hd.log_at, by rw [hd.trace_id]; rfl⟩

theorem collect_perm {α β : Type} {f : α → Except Exn β} {l m : List α} (hp : l.Perm m)
    {bs : List β} (h : collect f l = .ok bs) : ∃ cs, collect f m = .ok cs ∧ bs.Perm cs := by
  obtain ⟨cs, hcs, hperm⟩ := List.perm_comp_forall₂ hp.symm (collect_eq_ok.mp h)
  exact ⟨cs, collect_eq_ok.mpr hcs, hperm.symm⟩

variable {results : List MemoryRunResult}

def MemoryRunResult.Mapped (r : MemoryRunResult) : Prop :=
  ∀ l, r.toolOutputs = some l → areMappings l

def Store.TracesMapped (s : Store) : Prop := ∀ k t, s.traces.get? k = some t → t.Mapped

theorem tracesMapped_of_bare (h : s.traces.values.all (fun t => t.retrievedContext.isEmpty &&
    t.toolCalls.isEmpty && t.toolOutputs.isEmpty) = true) : s.TracesMapped := by
  intro k t ht
  have hempty := List.all_eq_true.mp h t (Dict.mem_values.mpr ⟨k, ht⟩)
  simp only [Bool.and_eq_true, List.isEmpty_iff] at hempty
  refine ⟨?_, ?_, ?_⟩ <;> simp [areMappings, hempty]

theorem rowOf_results (h : Sound py s) (hr : collect s.resultRow results = .ok rows) :
    List.Forall₂ s.RowOf (results.map MemoryRunResult.decisionId) rows := by
  rw [List.forall₂_map_left_iff]
  refine (collect_eq_ok.mp hr).imp fun r row hrow => ?_
  obtain ⟨i, log, t, hd, rfl⟩ := (resultRow_eq_ok h).mp hrow
  exact ⟨log, t, hd, rfl⟩

theorem grounded_of_results (h : Sound py s) (hr : collect s.resultRow results = .ok rows) :
    s.Grounded rows :=
  grounded_of_rowOf (rowOf_results h hr)

theorem mapped_resultValues {r : MemoryRunResult} (hr : r.Mapped) {v : CompletionValue}
    (hv : v ∈ memoryRunResultCompletionValues r) : v.Mapped := by
  simp only [memoryRunResultCompletionValues, List.mem_append, Option.mem_toList,
    Option.map_eq_some_iff] at hv
  obtain ((((⟨_, _, rfl⟩ | ⟨_, _, rfl⟩) | ⟨_, _, rfl⟩) | ⟨_, _, rfl⟩) | ⟨_, _, rfl⟩) | ⟨l, hl, rfl⟩ := hv
  case inr => exact hr l hl
  all_goals trivial

theorem mapped_of_results (h : Sound py s) (hs : s.TracesMapped) (hm : ∀ r ∈ results, r.Mapped)
    (hr : collect s.resultRow results = .ok rows) : s.Mapped rows := by
  refine ⟨fun _ _ => hs _, fun row hrow => ?_, fun row hrow => ?_⟩
  all_goals
    obtain ⟨r, hmem, hr⟩ := collect_mem hr hrow
    obtain ⟨i, log, t, _, rfl⟩ := (resultRow_eq_ok h).mp hr
  · exact fun v hv => mapped_resultValues (hm r hmem) hv
  · exact nodup_resultValues r

theorem nodup_indexes (h : Sound py s) (hn : (results.map MemoryRunResult.decisionId).Nodup)
    (hr : collect s.resultRow results = .ok rows) : (rows.map CompletionRow.logIndex).Nodup :=
  nodup_of_rowOf hn (rowOf_results h hr)

end Rows

section Agreement

variable {staged staged' : StagedCompletions}

theorem get?_written_traces (k : Str) : (s.written staged).traces.get? k =
    (staged.traces.get? k).or (s.traces.get? k) :=
  Dict.get?_update_dict _ _ _

theorem keys_written (ho : s.StagedOutcome py rows staged) :
    (s.written staged).traces.keys = s.traces.keys := by
  refine Dict.keys_update_of_subset fun p hp => ?_
  obtain ⟨_, hjoint⟩ := ho.joint p.1 p.2 (Dict.get?_eq_some.mpr hp)
  obtain ⟨current, hcurrent, _⟩ := hjoint.source
  exact Dict.mem_keys.mpr ⟨current, hcurrent⟩

theorem getElem?_written_logs (hg : s.Grounded rows) (ho : s.StagedOutcome py rows staged)
    (i : Nat) : (s.written staged).usageLogs[i]? = (staged.logs.get? i).or s.usageLogs[i]? := by
  refine getElem?_setLogs staged.logs.nodup (fun p hp => ?_) i
  obtain ⟨row, hrow, hlog⟩ := (ho.logs p.1 p.2).mp (Dict.get?_eq_some.mpr hp)
  obtain ⟨d, log, t, hd, _⟩ := hg row hrow
  rw [stageLog_key hlog]
  exact (List.getElem?_eq_some_iff.mp hd.log_at).1

theorem comparable_stored (h : Sound py s) (hm : s.TracesMapped) {k : Str} {t : Trace}
    (ht : s.traces.get? k = some t) : t.pyEq t = true := by
  have hc := comparable_of_valid (hm k t ht) (h.records.traces_at k t ht).2
  exact (pyEq_of_slots rfl hc).mpr ⟨rfl, hc.slots⟩

theorem written_agrees (h : Sound py s) (hm : s.TracesMapped) (hp : rows.Perm rows')
    (hg : s.Grounded rows) (hs : s.Stageable py rows) (ho : s.StagedOutcome py rows staged)
    (ho' : s.StagedOutcome py rows' staged') :
    (s.written staged).Agrees (s.written staged') := by
  have hg' : s.Grounded rows' := fun row hrow => hg row (hp.mem_iff.mpr hrow)
  have hlogs : (s.written staged).usageLogs = (s.written staged').usageLogs := by
    refine List.ext_getElem? fun i => ?_
    rw [getElem?_written_logs hg ho, getElem?_written_logs hg' ho']
    congr 1
    refine Option.ext fun log => ?_
    rw [ho.logs, ho'.logs]
    simp only [hp.mem_iff]
  refine ⟨(keys_written ho').trans (keys_written ho).symm, fun k t t' ht ht' => ?_, ?_⟩
  · rw [get?_written_traces] at ht ht'
    by_cases hk : ∃ row ∈ rows, row.traceId = k
    · obtain ⟨row, hrow, rfl⟩ := hk
      obtain ⟨u, hu⟩ := ho.covered row hrow
      obtain ⟨u', hu'⟩ := ho'.covered row (hp.mem_iff.mp hrow)
      rw [hu] at ht
      rw [hu'] at ht'
      cases ht
      cases ht'
      exact (ho.joint _ _ hu).2.pyEq (ho'.joint _ _ hu').2 hp (hs.evidence _) ⟨row, hrow, rfl⟩
    · have hnone : staged.traces.get? k = none := by
        rw [Option.eq_none_iff_forall_ne_some]
        exact fun u hu => hk (ho.joint k u hu).1
      have hnone' : staged'.traces.get? k = none := by
        rw [Option.eq_none_iff_forall_ne_some]
        intro u hu
        obtain ⟨row, hrow, hrk⟩ := (ho'.joint k u hu).1
        exact hk ⟨row, hp.mem_iff.mpr hrow, hrk⟩
      rw [hnone, Option.none_or] at ht
      rw [hnone', Option.none_or, ht] at ht'
      cases ht'
      exact comparable_stored h hm ht
  · change ({ s.written staged' with traces := (s.written staged).traces } : Store) = _
    have hrest : ({ s.written staged' with traces := (s.written staged).traces } : Store) =
        { s.written staged with usageLogs := (s.written staged').usageLogs } := rfl
    rw [hrest, ← hlogs]

theorem MemoryUsageLog.Seals.traceId {log log' : MemoryUsageLog} (h : log.Seals log') :
    log'.traceId = log.traceId := by
  have hunmeasured : log'.unmeasured.traceId = log.unmeasured.traceId := by rw [h.1]
  exact hunmeasured

theorem row_written (hg : s.Grounded rows) (ho : s.StagedOutcome py rows staged)
    (hsound : Sound py (s.written staged)) {d : Str} {row : CompletionRow} (hrow : row ∈ rows)
    (hr : s.RowOf d row) {sealed : MemoryUsageLog}
    (hl : s.stageLog row = .ok (row.logIndex, sealed)) :
    ∃ t, (s.written staged).Decided d row.logIndex sealed t ∧ row.traceId = t.traceId ∧
      staged.traces.get? row.traceId = some t := by
  obtain ⟨log, t, hd, hk⟩ := hr
  have hindex : (s.written staged).usageLogIndexes.get? d = some row.logIndex := hd.index_at
  obtain ⟨log', t', hd'⟩ := decided_of_index hsound hindex
  have hlog : staged.logs.get? row.logIndex = some sealed := (ho.logs _ _).mpr ⟨row, hrow, hl⟩
  have hat := hd'.log_at
  rw [getElem?_written_logs hg ho, hlog, Option.some_or] at hat
  obtain rfl := Option.some.inj hat
  obtain ⟨_, hq, hsealed⟩ := (stageLog_eq_ok hd).mp hl
  obtain rfl := (Prod.mk.inj hq).2
  have hkey := hd'.trace_id
  rw [(seals_of_candidate hsealed).traceId, hd.trace_id, Option.some.injEq] at hkey
  obtain ⟨u, hu⟩ := ho.covered row hrow
  have htrace := hd'.trace_at
  rw [get?_written_traces, ← hkey, ← hk, hu, Option.some_or] at htrace
  obtain rfl := Option.some.inj htrace
  exact ⟨u, hd', hk.trans hkey, hu⟩

theorem completion_written (hg : s.Grounded rows) (ho : s.StagedOutcome py rows staged) {d : Str}
    {row : CompletionRow} (hr : s.RowOf d row) {c : MemoryRunCompletion}
    (ht : staged.traces.get? row.traceId = some c.trace)
    (hl : staged.logs.get? row.logIndex = some c.usageLog) :
    (s.written staged).completion? d = some c := by
  obtain ⟨log, t, hd, hk⟩ := hr
  have hlog : (s.written staged).usageLogs[row.logIndex]? = some c.usageLog := by
    rw [getElem?_written_logs hg ho, hl, Option.some_or]
  have htrace : (s.written staged).traces.get? t.traceId = some c.trace := by
    rw [get?_written_traces, ← hk, ht, Option.some_or]
  obtain ⟨row', hrow', hstage⟩ := (ho.logs _ _).mp hl
  have hindex : row.logIndex = row'.logIndex := stageLog_key hstage
  obtain ⟨d', log', t', hd', _⟩ := hg row' hrow'
  obtain ⟨sealed, hq, hsealed⟩ := (stageLog_eq_ok hd').mp hstage
  obtain rfl := (Prod.mk.inj hq).2
  have hsame := hd'.log_at
  rw [← hindex, hd.log_at] at hsame
  cases hsame
  have hid : c.usageLog.traceId = some t.traceId :=
    (seals_of_candidate hsealed).traceId.trans hd.trace_id
  have hindexAt : (s.written staged).usageLogIndexes.get? d = some row.logIndex := hd.index_at
  simp only [Store.completion?, hindexAt, Option.bind_eq_bind, Option.bind_some, hlog, hid,
    Option.getD_some, htrace]
  rfl

theorem completions_written {ids : List Str} (hr : List.Forall₂ s.RowOf ids rows)
    (hg : s.Grounded rows) (ho : s.StagedOutcome py rows staged) :
    staged.completions.map some = ids.map (s.written staged).completion? := by
  have hpoint : ∀ (ids : List Str) (rows : List CompletionRow) (cs : List MemoryRunCompletion),
      List.Forall₂ s.RowOf ids rows →
      List.Forall₂ (fun row c => staged.traces.get? row.traceId = some c.trace ∧
        staged.logs.get? row.logIndex = some c.usageLog) rows cs →
      cs.map some = ids.map (s.written staged).completion? := by
    intro ids rows cs hrows
    induction hrows generalizing cs with
    | nil =>
      intro hcs
      cases hcs
      rfl
    | cons hrow _ ih =>
      intro hcs
      cases hcs with
      | cons hc hcs =>
        rw [List.map_cons, List.map_cons, ih _ hcs, completion_written hg ho hrow hc.1 hc.2]
  exact hpoint ids rows _ hr ho.completions

theorem written_answers (h : Sound py s) {results : List MemoryRunResult}
    (hr : collect s.resultRow results = .ok rows) (ho : s.StagedOutcome py rows staged) :
    (s.written staged).Answers results staged.completions := by
  rw [Store.Answers, completions_written (rowOf_results h hr) (grounded_of_results h hr) ho,
    List.map_map]
  rfl

theorem validatedMemoryRunResults_eq_ok {results : List MemoryRunResult} :
    validatedMemoryRunResults results = .ok () ↔ results.length ≠ 0 ∧
      results.length ≤ memoryRunBatchMaxItems ∧
      (∀ r ∈ results, validateMemoryRunResult r = .ok ()) ∧
      (results.map MemoryRunResult.decisionId).Nodup := by
  simp only [validatedMemoryRunResults, seq_eq_ok, raiseIf_eq_ok, checkEach_eq_ok, not_lt,
    Decidable.not_not, ne_eq]

theorem validatedMemoryRunResults_perm {results l : List MemoryRunResult} (hp : results.Perm l)
    (h : validatedMemoryRunResults results = .ok ()) : validatedMemoryRunResults l = .ok () := by
  obtain ⟨hsome, hmax, heach, hn⟩ := validatedMemoryRunResults_eq_ok.mp h
  refine validatedMemoryRunResults_eq_ok.mpr ⟨hp.length_eq ▸ hsome, hp.length_eq ▸ hmax,
    fun r hr => heach r (hp.mem_iff.mpr hr), (hp.map _).nodup_iff.mp hn⟩

theorem completeMemoryRuns_perm (h : Sound py s) (hs : s.TracesMapped) {results l : List MemoryRunResult}
    (hm : ∀ r ∈ results, r.Mapped) (hp : results.Perm l) {out : List MemoryRunCompletion}
    (hr : completeMemoryRuns py results s = .ok out s') :
    ∃ out' s'', completeMemoryRuns py l s = .ok out' s'' ∧ s'.Agrees s'' ∧ s''.Answers l out' := by
  obtain ⟨hvalid, rows, hrows, staged, hstage, rfl, rfl⟩ := completeMemoryRuns_eq_ok.mp hr
  obtain ⟨rows', hrows', hperm⟩ := collect_perm hp hrows
  have hn := (validatedMemoryRunResults_eq_ok.mp hvalid).2.2.2
  have hindexes := nodup_indexes h hn hrows
  have hrowsMapped := mapped_of_results h hs hm hrows
  obtain ⟨hstageable, hlogs, ho⟩ := stage_outcome h hrowsMapped hindexes hstage
  have hrowsMapped' : s.Mapped rows' := ⟨fun _ _ => hs _, fun row hrow => hrowsMapped.values row (hperm.mem_iff.mpr hrow),
    fun row hrow => hrowsMapped.fields row (hperm.mem_iff.mpr hrow)⟩
  have hindexes' := (hperm.map CompletionRow.logIndex).nodup_iff.mp hindexes
  have hstageable' : s.Stageable py rows' := by
    refine ⟨fun a ha b hb => hstageable.outcomes a (hperm.mem_iff.mpr ha) b (hperm.mem_iff.mpr hb),
      fun a ha => hstageable.candidates a (hperm.mem_iff.mpr ha), fun k v hv w hw => ?_⟩
    rw [mem_evidenceFor] at hv hw
    simp only [← hperm.mem_iff] at hv hw
    exact hstageable.evidence k v (mem_evidenceFor.mpr hv) w (mem_evidenceFor.mpr hw)
  obtain ⟨staged', hstage'⟩ := exists_stage h hrowsMapped' hindexes' hstageable'
    fun row hrow => hlogs row (hperm.mem_iff.mpr hrow)
  obtain ⟨_, _, ho'⟩ := stage_outcome h hrowsMapped' hindexes' hstage'
  refine ⟨staged'.completions, s.written staged', ?_, ?_, written_answers h hrows' ho'⟩
  · exact completeMemoryRuns_eq_ok.mpr ⟨validatedMemoryRunResults_perm hp hvalid, rows', hrows',
      staged', hstage', rfl, rfl⟩
  · exact written_agrees h hs hperm (grounded_of_results h hrows) hstageable ho ho'

end Agreement

end TraceBackedMemory
