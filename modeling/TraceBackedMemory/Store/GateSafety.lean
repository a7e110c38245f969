import TraceBackedMemory.Store.Atomicity

namespace TraceBackedMemory

open Text Raising

variable {py : Python} {env : Env} {s s' : Store}

section SystemGate

variable {c : MemoryContext}

def gateAllows (py : Python) (c : MemoryContext) (m : MemoryItem) : Bool :=
  (blockedReason py c m).isNone

theorem gateFold_allowed (l : List MemoryItem) (g : GateOutcome) :
    (l.foldl (gateStep py c) g).1 = g.1 ++ l.filter (gateAllows py c) := by
  induction l generalizing g with
  | nil => simp
  | cons m l ih =>
    rw [List.foldl_cons, ih, List.filter_cons]
    cases hb : blockedReason py c m with
    | none => simp [gateStep, gateAllows, hb]
    | some e => simp [gateStep, gateAllows, hb]

theorem gateFold_blocked (l : List MemoryItem) (g : GateOutcome) (i : Str) :
    i ∈ (l.foldl (gateStep py c) g).2.keys ↔
      i ∈ g.2.keys ∨ ∃ m ∈ l, m.memoryId = i ∧ gateAllows py c m = false := by
  induction l generalizing g with
  | nil => simp
  | cons m l ih =>
    rw [List.foldl_cons, ih]
    cases hb : blockedReason py c m with
    | none => simp [gateStep, gateAllows, hb]
    | some e =>
      simp only [gateStep, gateAllows, hb, Dict.mem_keys_set, List.mem_cons, exists_eq_or_imp,
        Option.isNone_some, and_true]
      constructor
      · rintro ((rfl | h) | h)
        · exact .inr (.inl rfl)
        · exact .inl h
        · exact .inr (.inr h)
      · rintro (h | rfl | h)
        · exact .inl (.inr h)
        · exact .inl (.inl rfl)
        · exact .inr h

theorem systemGate_eq_ok {candidates : List MemoryItem} {g : GateOutcome}
    (h : systemGate py c candidates = .ok g) :
    g.1 = candidates.filter (gateAllows py c) ∧
      ∀ i, i ∈ g.2.keys ↔ ∃ m ∈ candidates, m.memoryId = i ∧ gateAllows py c m = false := by
  simp only [systemGate, validatedMemoryCollection, bind_eq_ok, exists_unit, pure_eq_ok] at h
  obtain ⟨_, _, ⟨_, _, rfl⟩, rfl⟩ := h
  constructor
  · rw [gateFold_allowed]
    simp
  · intro i
    rw [gateFold_blocked]
    simp [Dict.keys, Dict.empty]

structure Covered (candidates allowed : List MemoryItem) (blocked : Dict Str Str) : Prop where
  blocked_or_allowed : ∀ m ∈ candidates, m.memoryId ∈ allowed.map MemoryItem.memoryId ∨
    m.memoryId ∈ blocked.keys

theorem systemGate_covered {candidates : List MemoryItem} {g : GateOutcome}
    (h : systemGate py c candidates = .ok g) : Covered candidates g.1 g.2 := by
  obtain ⟨ha, hb⟩ := systemGate_eq_ok h
  constructor
  intro m hm
  cases hg : gateAllows py c m with
  | true =>
    refine .inl (List.mem_map.mpr ⟨m, ?_, rfl⟩)
    rw [ha]
    exact List.mem_filter.mpr ⟨hm, hg⟩
  | false => exact .inr ((hb m.memoryId).mpr ⟨m, hm, rfl, hg⟩)

theorem boundedSystemGate_eq_ok {candidates : List MemoryItem} {b : GateOutcome}
    (h : boundedSystemGate py c candidates = .ok b) :
    ∃ g, systemGate py c candidates = .ok g ∧ b.1 ⊆ g.1 ∧ Covered candidates b.1 b.2 := by
  simp only [boundedSystemGate, bind_eq_ok] at h
  obtain ⟨g, hg, h⟩ := h
  have hcov := systemGate_covered hg
  split at h
  · rw [pure_eq_ok] at h
    subst h
    exact ⟨g, hg, fun _ hm => hm, hcov⟩
  · rw [pure_eq_ok] at h
    subst h
    refine ⟨g, hg, List.take_subset _ _, ⟨fun m hm => ?_⟩⟩
    rcases hcov.blocked_or_allowed m hm with ha | hb
    · rw [← List.take_append_drop llmGateMaxCandidates g.1, List.map_append,
        List.mem_append] at ha
      rcases ha with ha | ha
      · exact .inl ha
      · refine .inr (Dict.mem_keys_update.mpr (.inr ?_))
        simpa [List.map_map, Function.comp_def] using ha
    · exact .inr (Dict.mem_keys_update.mpr (.inl hb))

end SystemGate

section LlmGate

def usedIds (d : MemoryDecision) : List Str := if d.useMemory then d.allowedMemoryIds else []

theorem mem_addMissing {acc ids : List Str} {i : Str} :
    i ∈ addMissing acc ids ↔ i ∈ acc ∨ i ∈ ids := by
  induction ids generalizing acc with
  | nil => simp [addMissing]
  | cons j ids ih =>
    have hstep : addMissing acc (j :: ids) =
        addMissing (if j ∈ acc then acc else acc ++ [j]) ids := rfl
    rw [hstep, ih]
    split
    · rename_i hj
      constructor
      · rintro (h | h)
        · exact .inl h
        · exact .inr (List.mem_cons_of_mem _ h)
      · rintro (h | h)
        · exact .inl h
        · rcases List.mem_cons.mp h with rfl | h
          · exact .inl hj
          · exact .inr h
    · simp only [List.mem_append, List.mem_cons]
      tauto

structure Applied (allowed : List MemoryItem) (blocked : Dict Str Str) (d : MemoryDecision) :
    Prop where
  used_allowed : usedIds d ⊆ allowed.map MemoryItem.memoryId
  allowed_accounted : ∀ i ∈ allowed.map MemoryItem.memoryId, i ∈ usedIds d ∨ i ∈ d.blockedMemoryIds
  system_blocked : blocked.keys ⊆ d.blockedMemoryIds

theorem applied_of_requested {allowed : List MemoryItem} {blocked : Dict Str Str} (use : Bool)
    {requested : List Str} (acc : List Str) (reason : Str) (risk : Risk) (injection : Injection)
    (hr : requested ⊆ allowed.map MemoryItem.memoryId) (hb : blocked.keys ⊆ acc) :
    Applied allowed blocked
      { useMemory := use
        allowedMemoryIds := if use then requested else []
        blockedMemoryIds := addMissing acc ((allowed.map MemoryItem.memoryId).filter
          (fun i => decide (i ∉ if use then requested else [])))
        reason := reason
        risk := risk
        recommendedInjection := injection } := by
  cases use with
  | false =>
    refine ⟨by simp [usedIds], fun i hi => .inr (mem_addMissing.mpr (.inr ?_)),
      fun i hi => mem_addMissing.mpr (.inl (hb hi))⟩
    exact List.mem_filter.mpr ⟨hi, by simp⟩
  | true =>
    refine ⟨hr, fun i hi => ?_, fun i hi => mem_addMissing.mpr (.inl (hb hi))⟩
    by_cases hu : i ∈ requested
    · exact .inl hu
    · exact .inr (mem_addMissing.mpr (.inr (List.mem_filter.mpr ⟨hi, by simpa using hu⟩)))

theorem applyLlmGateDecision_applied {allowed : List MemoryItem} {blocked : Dict Str Str}
    {d : MemoryDecision} {p : List MemoryItem × MemoryDecision}
    (h : applyLlmGateDecision py allowed blocked d = .ok p) : Applied allowed blocked p.2 := by
  simp only [applyLlmGateDecision, validatedMemoryCollection, validatedDecisionFields, bind_eq_ok,
    exists_unit, pure_eq_ok] at h
  obtain ⟨_, ⟨_, _, rfl⟩, _, _, ⟨ids, _, blockedIds, _, _, rfl⟩, _, rfl⟩ := h
  refine applied_of_requested _ _ _ _ _ (fun i hi => ?_) (fun i hi => ?_)
  · exact of_decide_eq_true (List.mem_filter.mp hi).2
  · simp only [mem_addMissing, List.mem_append]
    exact .inl (.inr (.inl hi))

end LlmGate

section Accounting

theorem memoryItem?_eq_ok (h : Sound py s) {i : Str} {o : Option MemoryItem}
    (ho : s.memoryItem? py i = .ok o) (hk : s.memoryKnown i = true) :
    ∃ m, o = some m ∧ m.memoryId = i := by
  unfold Store.memoryItem? at ho
  split at ho
  · rename_i l hl
    simp only [Store.memoryItemFromLesson, memoryItemFromLesson, map_eq_ok, bind_eq_ok,
      exists_unit, pure_eq_ok] at ho
    obtain ⟨_, ⟨_, _, _, _, _, _, rfl⟩, rfl⟩ := ho
    exact ⟨_, rfl, (h.records.lessons_at i l hl).key⟩
  · rename_i hl
    split at ho
    · rename_i p hp
      simp only [memoryItemFromProjectPolicy, map_eq_ok, bind_eq_ok, exists_unit, pure_eq_ok] at ho
      obtain ⟨_, ⟨_, _, rfl⟩, rfl⟩ := ho
      exact ⟨_, rfl, (h.records.policies_at i p hp).1⟩
    · rename_i hp
      split at ho
      · rename_i c hc
        simp only [memoryItemFromFailureCaseForAudit, map_eq_ok, bind_eq_ok, exists_unit,
          pure_eq_ok] at ho
        obtain ⟨_, _, _, ⟨_, _, rfl⟩, rfl⟩ := ho
        exact ⟨_, rfl, (h.records.cases_at i c hc).key⟩
      · rename_i hc
        simp [Store.memoryKnown, Dict.contains, hl, hp, hc] at hk

theorem memoryItems_ids (h : Sound py s) {ids : List Str} {items : List MemoryItem}
    (hi : s.memoryItems py ids = .ok items) : items.map MemoryItem.memoryId = ids := by
  simp only [Store.memoryItems, bind_eq_ok, exists_unit, collect_eq_ok, refuseListed_eq_ok,
    sortedStrs_eq_nil, List.filter_eq_nil_iff, Bool.not_eq_true', Bool.not_eq_false,
    pure_eq_ok] at hi
  obtain ⟨options, hall, hknown, rfl⟩ := hi
  induction hall with
  | nil => rfl
  | cons hab _ ih =>
    obtain ⟨m, rfl, hm⟩ := memoryItem?_eq_ok h hab (hknown _ (by simp))
    have htail := ih fun i hi => hknown i (List.mem_cons_of_mem _ hi)
    simpa [hm] using htail

structure GateSafe (log : MemoryUsageLog) (allowed : List MemoryItem) (candidateIds : List Str) :
    Prop where
  used_allowed : log.usedMemoryIds ⊆ allowed.map MemoryItem.memoryId
  used_nodup : log.usedMemoryIds.Nodup
  blocked_nodup : log.blockedMemoryIds.Nodup
  disjoint : ∀ i ∈ log.usedMemoryIds, i ∉ log.blockedMemoryIds
  accounted : ∀ i, i ∈ log.usedMemoryIds ∨ i ∈ log.blockedMemoryIds ↔ i ∈ candidateIds

structure IdsChecked (log : MemoryUsageLog) : Prop where
  used_nodup : log.usedMemoryIds.Nodup
  blocked_nodup : log.blockedMemoryIds.Nodup
  used_candidates : log.usedMemoryIds ⊆ log.candidateMemoryIds
  blocked_candidates : log.blockedMemoryIds ⊆ log.candidateMemoryIds
  disjoint : ∀ i ∈ log.usedMemoryIds, i ∉ log.blockedMemoryIds

theorem validateUsageLog_ids {log : MemoryUsageLog} (h : validateUsageLog log = .ok ()) :
    IdsChecked log := by
  simp only [validateUsageLog, validateMemoryIdList, bind_eq_ok, exists_unit, raiseIf_eq_ok,
    refuseListed_eq_ok, List.filter_eq_nil_iff, decide_eq_true_eq, Decidable.not_not] at h
  obtain ⟨_, _, _, ⟨_, hun, _⟩, ⟨_, hbn, _⟩, _, _, _, _, _, _, _, _, _, _, _, huc, hbc, hd, _⟩ := h
  exact ⟨hun, hbn, huc, hbc, hd⟩

theorem gateSafe_of_applied {log : MemoryUsageLog} {candidates allowed gateAllowed : List MemoryItem}
    {blocked : Dict Str Str} {d : MemoryDecision} (hv : IdsChecked log)
    (hcand : log.candidateMemoryIds = candidates.map MemoryItem.memoryId)
    (hused : log.usedMemoryIds = usedIds d) (hblocked : log.blockedMemoryIds = d.blockedMemoryIds)
    (hsub : allowed ⊆ gateAllowed) (hcov : Covered candidates allowed blocked)
    (happ : Applied allowed blocked d) :
    GateSafe log gateAllowed (candidates.map MemoryItem.memoryId) where
  used_allowed := by
    rw [hused]
    exact fun i hi => List.map_subset _ hsub (happ.used_allowed hi)
  used_nodup := hv.used_nodup
  blocked_nodup := hv.blocked_nodup
  disjoint := hv.disjoint
  accounted i := by
    constructor
    · rw [← hcand]
      rintro (hi | hi)
      · exact hv.used_candidates hi
      · exact hv.blocked_candidates hi
    · intro hi
      obtain ⟨m, hm, rfl⟩ := List.mem_map.mp hi
      rw [hused, hblocked]
      rcases hcov.blocked_or_allowed m hm with ha | hb
      · exact happ.allowed_accounted _ ha
      · exact .inr (happ.system_blocked hb)

theorem finalization_gateSafe (h : Sound py s) {a : FinalizeArguments} {f : Finalization}
    (hf : s.finalization py env a = .ok f) :
    ∃ candidates g, s.memoryItems py a.request.candidateMemoryIds = .ok candidates ∧
      systemGate py a.request.context candidates = .ok g ∧
      GateSafe f.log g.1 a.request.candidateMemoryIds := by
  simp only [Store.finalization, bind_eq_ok, exists_unit, pure_eq_ok] at hf
  obtain ⟨_, _, _, _, _, t, _, _, _, candidates, hc, b, hb, d, _, p, hp, snippet, _, log, hlog,
    rfl⟩ := hf
  obtain ⟨g, hg, hsub, hcov⟩ := boundedSystemGate_eq_ok hb
  obtain ⟨hv, _, hcand, hused, hblocked, _⟩ := newUsageLog_spec hlog
  refine ⟨candidates, g, hc, hg, ?_⟩
  rw [← memoryItems_ids h hc]
  exact gateSafe_of_applied (validateUsageLog_ids hv.1) hcand hused hblocked hsub hcov
    (applyLlmGateDecision_applied hp)

theorem loggedDecision_gateSafe (h : Sound py s) {a : LogArguments} {log : MemoryUsageLog}
    (hl : s.loggedDecision py env a = .ok log) :
    ∃ candidates g, s.memoryItems py a.candidateMemoryIds = .ok candidates ∧
      systemGate py a.context candidates = .ok g ∧ GateSafe log g.1 a.candidateMemoryIds := by
  simp only [Store.loggedDecision, bind_eq_ok, exists_unit] at hl
  obtain ⟨_, _, _, _, t, _, _, candidates, hc, g, hg, d, _, _, p, hp, hlog⟩ := hl
  obtain ⟨hv, _, hcand, hused, hblocked, _⟩ := newUsageLog_spec hlog
  refine ⟨candidates, g, hc, hg, ?_⟩
  rw [← memoryItems_ids h hc]
  exact gateSafe_of_applied (validateUsageLog_ids hv.1) hcand hused hblocked (fun _ hm => hm)
    (systemGate_covered hg) (applyLlmGateDecision_applied hp)

end Accounting

section Runs

def Operation.gated : Operation → Option (MemoryContext × List Str)
  | .finalizeMemory a => some (a.request.context, a.request.candidateMemoryIds)
  | .logDecision a => some (a.context, a.candidateMemoryIds)
  | _ => none

theorem exec_gateSafe (h : Sound py s) {op : Operation} {c : MemoryContext} {ids : List Str}
    (hop : op.gated = some (c, ids)) {r : Reply} (hr : exec py env op s = .ok r s') :
    ∃ log candidates g, s'.usageLogs = s.usageLogs ++ [log] ∧
      s.memoryItems py ids = .ok candidates ∧ systemGate py c candidates = .ok g ∧
      GateSafe log g.1 ids := by
  cases op <;> simp only [Operation.gated] at hop <;> cases hop
  case finalizeMemory a =>
    obtain ⟨_, hr, _⟩ := run_map_eq_ok.mp hr
    obtain ⟨f, next, hf, _, rfl, _⟩ := finalizeMemory_spec hr
    obtain ⟨candidates, g, hc, hg, hs⟩ := finalization_gateSafe h hf
    exact ⟨f.log, candidates, g, rfl, hc, hg, hs⟩
  case logDecision a =>
    obtain ⟨log, hr, _⟩ := run_map_eq_ok.mp hr
    obtain ⟨next, hl, _, rfl⟩ := logDecision_spec hr
    obtain ⟨candidates, g, hc, hg, hs⟩ := loggedDecision_gateSafe h hl
    exact ⟨log, candidates, g, rfl, hc, hg, hs⟩

def Kept (log : MemoryUsageLog) (s : Store) : Prop :=
  ∃ log' ∈ s.usageLogs, log'.unmeasured = log.unmeasured

theorem kept_effect {log : MemoryUsageLog} (h : Kept log s) (he : Effect py s s') :
    Kept log s' := by
  obtain ⟨log', hlog', hu⟩ := h
  cases he with
  | complete traces logs ht hl =>
    obtain ⟨log'', hlog'', hs⟩ := exists_seals hl hlog'
    exact ⟨log'', hlog'', hs.1.trans hu⟩
  | log | finalize => exact ⟨log', List.mem_append_left _ hlog', hu⟩
  | _ => exact ⟨log', hlog', hu⟩

theorem kept_effects {log : MemoryUsageLog} (h : Kept log s) (he : Effects py s s') :
    Kept log s' := by
  induction he with
  | refl => exact h
  | tail _ hstep ih => exact kept_effect ih hstep

theorem GateSafe.of_unmeasured {log log' : MemoryUsageLog} {allowed : List MemoryItem}
    {ids : List Str} (h : GateSafe log allowed ids) (hu : log'.unmeasured = log.unmeasured) :
    GateSafe log' allowed ids := by
  have hused : log'.unmeasured.usedMemoryIds = log.unmeasured.usedMemoryIds := by rw [hu]
  have hblocked : log'.unmeasured.blockedMemoryIds = log.unmeasured.blockedMemoryIds := by rw [hu]
  change log'.usedMemoryIds = log.usedMemoryIds at hused
  change log'.blockedMemoryIds = log.blockedMemoryIds at hblocked
  constructor
  · rw [hused]
    exact h.used_allowed
  · rw [hused]
    exact h.used_nodup
  · rw [hblocked]
    exact h.blocked_nodup
  · rw [hused, hblocked]
    exact h.disjoint
  · rw [hused, hblocked]
    exact h.accounted

theorem gate_safety (h : Reachable py s) {op : Operation} {c : MemoryContext} {ids : List Str}
    (hop : op.gated = some (c, ids)) {r : Reply} (hr : exec py env op s = .ok r s')
    (calls : List (Env × Operation)) :
    ∃ log candidates g, s'.usageLogs = s.usageLogs ++ [log] ∧
      s.memoryItems py ids = .ok candidates ∧ systemGate py c candidates = .ok g ∧
      GateSafe log g.1 ids ∧
      ∃ log' ∈ (runStore py s' calls).usageLogs, log'.decisionId = log.decisionId ∧
        GateSafe log' g.1 ids := by
  have hs := h.sound
  obtain ⟨log, candidates, g, hlogs, hc, hg, hsafe⟩ := exec_gateSafe hs hop hr
  have hkept : Kept log s' := ⟨log, by simp [hlogs], rfl⟩
  have hs' := sound_effects hs (exec_effects hr)
  obtain ⟨log', hlog', hu⟩ := kept_effects hkept (runStore_effects hs' calls)
  have hid : log'.unmeasured.decisionId = log.unmeasured.decisionId := by rw [hu]
  exact ⟨log, candidates, g, hlogs, hc, hg, hsafe, log', hlog', hid, hsafe.of_unmeasured hu⟩

theorem gate_safety_sample : ∃ r s g s',
    prepareMemory asciiPython sampleRequest sampleStore = .ok r s ∧
      exec asciiPython sampleEnv (.finalizeMemory (sampleFinalization r)) s = .ok (.gated g) s' ∧
      ∃ log candidates gate, s'.usageLogs = s.usageLogs ++ [log] ∧
        s.memoryItems asciiPython r.candidateMemoryIds = .ok candidates ∧
        systemGate asciiPython r.context candidates = .ok gate ∧
        GateSafe log gate.1 r.candidateMemoryIds ∧
        ∃ log' ∈ (runStore asciiPython s' sampleCalls).usageLogs,
          log'.decisionId = log.decisionId ∧ GateSafe log' gate.1 r.candidateMemoryIds := by
  obtain ⟨r, s, g, s', hp, hf⟩ := sampleGate_steps
  have hprep : exec asciiPython sampleEnv (.prepareMemory sampleRequest) sampleStore =
      .ok (.request r) s := run_map_eq_ok.mpr ⟨r, hp, rfl⟩
  have hfin : exec asciiPython sampleEnv (.finalizeMemory (sampleFinalization r)) s =
      .ok (.gated g) s' := run_map_eq_ok.mpr ⟨g, hf, rfl⟩
  exact ⟨r, s, g, s', hp, hfin, gate_safety (sampleStore_reachable.ok hprep) rfl hfin sampleCalls⟩

end Runs

end TraceBackedMemory
