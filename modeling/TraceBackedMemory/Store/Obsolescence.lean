import TraceBackedMemory.Store.Atomicity
import TraceBackedMemory.Foundation.DictValues

namespace TraceBackedMemory

open Text Raising

section Batches

variable {py : Python} {s s' : Store} {requests done : List MemoryObsolescenceRequest}
  {r : MemoryObsolescenceRequest}

-- the single step for one request
def obsoleteMemory (py : Python) (r : MemoryObsolescenceRequest) : Op Memory :=
  match r.memoryKind with
  | .failureCase => Memory.failureCase <$> obsoleteFailureCase py r.memoryId
  | .lesson => Memory.lesson <$> obsoleteLesson py r.memoryId
  | .projectPolicy => Memory.projectPolicy <$> obsoleteProjectPolicy py r.memoryId

-- what the batch leaves, as a function of the set of its requests
def Store.retired (s : Store) (requests : List MemoryObsolescenceRequest) : Store := { s with
  failureCases := s.failureCases.mapValues (fun k c =>
    if k ∈ requestedIds .failureCase requests then transitionFailureCaseToObsolete c else c)
  lessons := s.lessons.mapValues (fun k l =>
    if k ∈ requestedIds .lesson requests ∨ l.sourceCaseId ∈ s.cascadingCaseIds (requestedIds .failureCase requests) then
      transitionLessonToObsolete l
    else l)
  projectPolicies := s.projectPolicies.mapValues (fun k p =>
    if k ∈ requestedIds .projectPolicy requests then transitionProjectPolicyToObsolete p else p) }

theorem obsolete_case {c : FailureCase} (h : c.status = .obsolete) : transitionFailureCaseToObsolete c = c := by
  rw [transitionFailureCaseToObsolete, ← h]

theorem obsolete_lesson {l : Lesson} (h : l.status = .obsolete) : transitionLessonToObsolete l = l := by
  rw [transitionLessonToObsolete, ← h]

theorem obsolete_policy {p : ProjectPolicy} (h : p.status = .obsolete) : transitionProjectPolicyToObsolete p = p := by
  rw [transitionProjectPolicyToObsolete, ← h]

theorem retire_case (c : FailureCase) :
    (if c.status = .obsolete then c else transitionFailureCaseToObsolete c) = transitionFailureCaseToObsolete c := by
  split_ifs with h
  · exact (obsolete_case h).symm
  · rfl

theorem retire_lesson (l : Lesson) :
    (if l.status = .obsolete then l else transitionLessonToObsolete l) = transitionLessonToObsolete l := by
  split_ifs with h
  · exact (obsolete_lesson h).symm
  · rfl

theorem retire_policy (p : ProjectPolicy) :
    (if p.status = .obsolete then p else transitionProjectPolicyToObsolete p) = transitionProjectPolicyToObsolete p := by
  split_ifs with h
  · exact (obsolete_policy h).symm
  · rfl

theorem active_or_obsolete (l : Lesson) : l.status = .active ∨ l.status = .obsolete := by
  cases l.status with
  | active => exact .inl rfl
  | obsolete => exact .inr rfl

theorem retired_congr {order : List MemoryObsolescenceRequest} (h : ∀ r, r ∈ order ↔ r ∈ requests) :
    s.retired order = s.retired requests := by
  have hids (kind : MemoryKind) (k : Str) : k ∈ requestedIds kind order ↔ k ∈ requestedIds kind requests := by
    simp only [requestedIds, List.mem_map, List.mem_filter, h]
  have hcases (k : Str) : k ∈ s.cascadingCaseIds (requestedIds .failureCase order) ↔
      k ∈ s.cascadingCaseIds (requestedIds .failureCase requests) := by
    simp only [Store.cascadingCaseIds, List.mem_filter, hids]
  simp only [Store.retired, hids, hcases]

theorem retired_nil : s.retired [] = s := by
  have hcases : s.failureCases.mapValues (fun k c =>
      if k ∈ requestedIds .failureCase [] then transitionFailureCaseToObsolete c else c) = s.failureCases :=
    Dict.mapValues_self fun k c _ => if_neg List.not_mem_nil
  have hlessons : s.lessons.mapValues (fun k l => if k ∈ requestedIds .lesson [] ∨
      l.sourceCaseId ∈ s.cascadingCaseIds (requestedIds .failureCase []) then transitionLessonToObsolete l else l) =
        s.lessons :=
    Dict.mapValues_self fun k l _ => if_neg fun h => h.elim List.not_mem_nil List.not_mem_nil
  have hpolicies : s.projectPolicies.mapValues (fun k p =>
      if k ∈ requestedIds .projectPolicy [] then transitionProjectPolicyToObsolete p else p) = s.projectPolicies :=
    Dict.mapValues_self fun k p _ => if_neg List.not_mem_nil
  rw [Store.retired, hcases, hlessons, hpolicies]

-- what the batch has checked when it is accepted
structure Retirable (py : Python) (s : Store) (requests : List MemoryObsolescenceRequest) : Prop where
  unique : (requests.map MemoryObsolescenceRequest.memoryId).Nodup
  stored : ∀ r ∈ requests, s.checkRequested r = .ok ()
  cases : ∀ k c, s.failureCases.get? k = some c → k ∈ requestedIds .failureCase requests →
    validateFailureCase (transitionFailureCaseToObsolete c) = .ok ()
  lessons : ∀ k l, s.lessons.get? k = some l → k ∈ requestedIds .lesson requests ∨
    (l.sourceCaseId ∈ s.cascadingCaseIds (requestedIds .failureCase requests) ∧ l.status = .active) →
      validateStoredLesson py (transitionLessonToObsolete l) = .ok ()
  policies : ∀ k p, s.projectPolicies.get? k = some p → k ∈ requestedIds .projectPolicy requests →
    validateStoredPolicy py (transitionProjectPolicyToObsolete p) = .ok ()

theorem obsoleteMemories_eq_ok {memories : List Memory} (h : obsoleteMemories py requests s = .ok memories s') :
    Retirable py s requests ∧ s' = s.retired requests := by
  simp only [obsoleteMemories, run_bind_eq_ok, run_inspect_eq_ok, run_assign_eq_ok] at h
  obtain ⟨o, _, ⟨hcheck, rfl⟩, ⟨⟩, _, rfl, ⟨⟩, _, rfl, ⟨⟩, _, rfl, -, rfl⟩ := h
  simp only [Store.checkObsolescence, validatedMemoryObsolescenceRequests, bind_eq_ok, exists_unit, pure_eq_ok,
    raiseIf_eq_ok, not_not, checkEach_eq_ok] at hcheck
  obtain ⟨⟨-, -, hunique⟩, hstored, hcases, hlessons, hpolicies, rfl⟩ := hcheck
  refine ⟨⟨hunique, hstored, fun k c hc hk => ?_, fun k l hl hk => ?_, fun k p hp hk => ?_⟩, ?_⟩
  · refine hcases _ (Dict.mem_values.mpr ⟨k, ?_⟩)
    simp [Store.obsoletedMemories, Dict.get?_mapValues, Dict.get?_filterEntries, hc, hk, retire_case]
  · refine hlessons _ (Dict.mem_values.mpr ⟨k, ?_⟩)
    simp [Store.obsoletedMemories, Dict.get?_mapValues, Dict.get?_filterEntries, hl, hk, retire_lesson]
  · refine hpolicies _ (Dict.mem_values.mpr ⟨k, ?_⟩)
    simp [Store.obsoletedMemories, Dict.get?_mapValues, Dict.get?_filterEntries, hp, hk, retire_policy]
  · simp only [Store.obsoletedMemories, Dict.update_selected, retire_case, retire_lesson, retire_policy,
      decide_eq_true_eq, Store.retired]
    congr 1
    refine Dict.mapValues_congr fun k l _ => ?_
    rcases active_or_obsolete l with hactive | hobsolete
    · simp only [hactive, and_true]
    · rw [obsolete_lesson hobsolete, ite_self, ite_self]

theorem mem_requestedIds_concat {kind : MemoryKind} {k : Str} : k ∈ requestedIds kind (done ++ [r]) ↔
    k ∈ requestedIds kind done ∨ r.memoryKind = kind ∧ k = r.memoryId := by
  simp only [requestedIds, List.mem_map, List.mem_filter, List.mem_append, List.mem_singleton, decide_eq_true_eq]
  constructor
  · rintro ⟨other, ⟨hother | rfl, hkind⟩, rfl⟩
    · exact .inl ⟨other, ⟨hother, hkind⟩, rfl⟩
    · exact .inr ⟨hkind, rfl⟩
  · rintro (⟨other, ⟨hother, hkind⟩, rfl⟩ | ⟨hkind, rfl⟩)
    · exact ⟨other, ⟨.inl hother, hkind⟩, rfl⟩
    · exact ⟨r, ⟨.inr rfl, hkind⟩, rfl⟩

theorem mem_cascading {ids : List Str} {k : Str} : k ∈ s.cascadingCaseIds ids ↔
    k ∈ ids ∧ ∃ c, s.failureCases.get? k = some c ∧ c.status ≠ .obsolete := by
  rw [Store.cascadingCaseIds, List.mem_filter]
  cases s.failureCases.get? k with
  | none => simp
  | some c => simp

theorem storedRecord_at {α : Type} {records later : Dict Str α} {k label : Str} {a b : α}
    (h : storedRecord records k label = .ok a) (hb : later.get? k = some b) : storedRecord later k label = .ok b := by
  simp only [storedRecord, bind_eq_ok, exists_unit, demand_eq_ok] at h ⊢
  exact ⟨h.1, h.2.1, hb⟩

theorem not_mem_requestedIds {kind : MemoryKind} (hnew : r.memoryId ∉ done.map MemoryObsolescenceRequest.memoryId) :
    r.memoryId ∉ requestedIds kind done := fun h => by
  obtain ⟨other, hother, heq⟩ := List.mem_map.mp h
  exact hnew (List.mem_map.mpr ⟨other, (List.mem_filter.mp hother).1, heq⟩)

theorem mem_requestedIds_kind {kind : MemoryKind} {k : Str} (hkind : r.memoryKind = kind) :
    k ∈ requestedIds kind (done ++ [r]) ↔ k ∈ requestedIds kind done ∨ k = r.memoryId := by
  rw [mem_requestedIds_concat]
  exact or_congr_right (and_iff_right hkind)

theorem mem_requestedIds_other {kind : MemoryKind} {k : Str} (hkind : r.memoryKind ≠ kind) :
    k ∈ requestedIds kind (done ++ [r]) ↔ k ∈ requestedIds kind done := by
  rw [mem_requestedIds_concat]
  exact or_iff_left fun h => hkind h.1

theorem retired_policy {p : ProjectPolicy} (hkind : r.memoryKind = .projectPolicy)
    (hget : s.projectPolicies.get? r.memoryId = some p) : s.retired (done ++ [r]) = { s.retired done with
      projectPolicies := (s.retired done).projectPolicies.set r.memoryId (transitionProjectPolicyToObsolete p) } := by
  have hcases (k : Str) : k ∈ requestedIds .failureCase (done ++ [r]) ↔ k ∈ requestedIds .failureCase done :=
    mem_requestedIds_other (by rw [hkind]; decide)
  have hlessons (k : Str) : k ∈ requestedIds .lesson (done ++ [r]) ↔ k ∈ requestedIds .lesson done :=
    mem_requestedIds_other (by rw [hkind]; decide)
  have hmem : r.memoryId ∈ (s.retired done).projectPolicies.keys := by
    rw [Store.retired, Dict.keys_mapValues]
    exact Dict.mem_keys.mpr ⟨p, hget⟩
  rw [Dict.set_eq_mapValues _ hmem]
  simp only [Store.retired, hcases, hlessons, mem_cascading, mem_requestedIds_kind hkind, Dict.mapValues_mapValues]
  congr 1
  refine Dict.mapValues_congr fun k q hq => ?_
  by_cases hk : k = r.memoryId
  · subst hk
    rw [if_pos (.inr rfl), if_pos rfl, Option.some.inj (hget.symm.trans hq)]
  · rw [if_neg hk]
    simp only [hk, or_false]

theorem obsoletePolicy_step (h : Retirable py s requests) (hr : r ∈ requests) (hkind : r.memoryKind = .projectPolicy)
    (hnew : r.memoryId ∉ done.map MemoryObsolescenceRequest.memoryId) :
    ∃ p, obsoleteProjectPolicy py r.memoryId (s.retired done) = .ok p (s.retired (done ++ [r])) := by
  have hstored := h.stored r hr
  rw [Store.checkRequested, hkind] at hstored
  obtain ⟨p, hp, -⟩ := bind_eq_ok.mp hstored
  have hget := storedRecord_eq_ok hp
  have hlater : (s.retired done).projectPolicies.get? r.memoryId = some p := by
    rw [Store.retired, Dict.get?_mapValues, hget, Option.map_some, if_neg (not_mem_requestedIds hnew)]
  rw [retired_policy hkind hget]
  by_cases hobsolete : p.status = .obsolete
  · refine ⟨p, run_bind_eq_ok.mpr ⟨p, _, run_inspect_eq_ok.mpr ⟨storedRecord_at hp hlater, rfl⟩, ?_⟩⟩
    rw [if_pos hobsolete, obsolete_policy hobsolete, Dict.set_of_get? hlater]
    rfl
  · have hvalid := h.policies _ _ hget (hkind ▸ requestedIds_mem hr)
    refine ⟨transitionProjectPolicyToObsolete p,
      run_bind_eq_ok.mpr ⟨p, _, run_inspect_eq_ok.mpr ⟨storedRecord_at hp hlater, rfl⟩, ?_⟩⟩
    rw [if_neg hobsolete]
    exact run_bind_eq_ok.mpr ⟨(), _, run_inspect_eq_ok.mpr ⟨hvalid, rfl⟩, rfl⟩

theorem retired_lesson {l : Lesson} (hkind : r.memoryKind = .lesson) (hget : s.lessons.get? r.memoryId = some l) :
    s.retired (done ++ [r]) = { s.retired done with
      lessons := (s.retired done).lessons.set r.memoryId (transitionLessonToObsolete l) } := by
  have hcases (k : Str) : k ∈ requestedIds .failureCase (done ++ [r]) ↔ k ∈ requestedIds .failureCase done :=
    mem_requestedIds_other (by rw [hkind]; decide)
  have hpolicies (k : Str) : k ∈ requestedIds .projectPolicy (done ++ [r]) ↔ k ∈ requestedIds .projectPolicy done :=
    mem_requestedIds_other (by rw [hkind]; decide)
  have hmem : r.memoryId ∈ (s.retired done).lessons.keys := by
    rw [Store.retired, Dict.keys_mapValues]
    exact Dict.mem_keys.mpr ⟨l, hget⟩
  rw [Dict.set_eq_mapValues _ hmem]
  simp only [Store.retired, hcases, hpolicies, mem_cascading, mem_requestedIds_kind hkind, Dict.mapValues_mapValues]
  congr 1
  refine Dict.mapValues_congr fun k m hm => ?_
  by_cases hk : k = r.memoryId
  · subst hk
    rw [if_pos (.inl (.inr rfl)), if_pos rfl, Option.some.inj (hget.symm.trans hm)]
  · rw [if_neg hk]
    simp only [hk, or_false]

theorem obsoleteLesson_step (h : Retirable py s requests) (hr : r ∈ requests) (hkind : r.memoryKind = .lesson)
    (hnew : r.memoryId ∉ done.map MemoryObsolescenceRequest.memoryId) :
    ∃ l, obsoleteLesson py r.memoryId (s.retired done) = .ok l (s.retired (done ++ [r])) := by
  have hstored := h.stored r hr
  rw [Store.checkRequested, hkind] at hstored
  obtain ⟨l, hl, -⟩ := bind_eq_ok.mp hstored
  have hget := storedRecord_eq_ok hl
  have hlater : (s.retired done).lessons.get? r.memoryId =
      some (if l.sourceCaseId ∈ s.cascadingCaseIds (requestedIds .failureCase done) then transitionLessonToObsolete l
        else l) := by
    rw [Store.retired, Dict.get?_mapValues, hget, Option.map_some]
    simp only [not_mem_requestedIds hnew, false_or]
  rw [retired_lesson hkind hget]
  split_ifs at hlater with hcascade
  · refine ⟨transitionLessonToObsolete l,
      run_bind_eq_ok.mpr ⟨transitionLessonToObsolete l, _, run_inspect_eq_ok.mpr ⟨storedRecord_at hl hlater, rfl⟩, ?_⟩⟩
    rw [if_pos (show (transitionLessonToObsolete l).status = .obsolete from rfl), Dict.set_of_get? hlater]
    rfl
  · by_cases hobsolete : l.status = .obsolete
    · refine ⟨l, run_bind_eq_ok.mpr ⟨l, _, run_inspect_eq_ok.mpr ⟨storedRecord_at hl hlater, rfl⟩, ?_⟩⟩
      rw [if_pos hobsolete, obsolete_lesson hobsolete, Dict.set_of_get? hlater]
      rfl
    · have hvalid := h.lessons _ _ hget (.inl (hkind ▸ requestedIds_mem hr))
      refine ⟨transitionLessonToObsolete l,
        run_bind_eq_ok.mpr ⟨l, _, run_inspect_eq_ok.mpr ⟨storedRecord_at hl hlater, rfl⟩, ?_⟩⟩
      rw [if_neg hobsolete]
      exact run_bind_eq_ok.mpr ⟨(), _, run_inspect_eq_ok.mpr ⟨hvalid, rfl⟩, rfl⟩

theorem mem_cascading_concat {c : FailureCase} (hkind : r.memoryKind = .failureCase)
    (hget : s.failureCases.get? r.memoryId = some c) {k : Str} :
    k ∈ s.cascadingCaseIds (requestedIds .failureCase (done ++ [r])) ↔
      k ∈ s.cascadingCaseIds (requestedIds .failureCase done) ∨ k = r.memoryId ∧ c.status ≠ .obsolete := by
  rw [mem_cascading, mem_cascading, mem_requestedIds_kind hkind, or_and_right]
  refine or_congr_right ⟨?_, ?_⟩
  · rintro ⟨rfl, other, hother, hstatus⟩
    exact ⟨rfl, Option.some.inj (hget.symm.trans hother) ▸ hstatus⟩
  · rintro ⟨rfl, hstatus⟩
    exact ⟨rfl, c, hget, hstatus⟩

theorem retired_case {c : FailureCase} (hkind : r.memoryKind = .failureCase)
    (hget : s.failureCases.get? r.memoryId = some c) (hlive : c.status ≠ .obsolete) :
    s.retired (done ++ [r]) = { s.retired done with
      failureCases := (s.retired done).failureCases.set r.memoryId (transitionFailureCaseToObsolete c)
      lessons := (s.retired done).lessons.update (dependentLessons (s.retired done).lessons r.memoryId).entries } := by
  have hlessons (k : Str) : k ∈ requestedIds .lesson (done ++ [r]) ↔ k ∈ requestedIds .lesson done :=
    mem_requestedIds_other (by rw [hkind]; decide)
  have hpolicies (k : Str) : k ∈ requestedIds .projectPolicy (done ++ [r]) ↔ k ∈ requestedIds .projectPolicy done :=
    mem_requestedIds_other (by rw [hkind]; decide)
  have hmem : r.memoryId ∈ (s.retired done).failureCases.keys := by
    rw [Store.retired, Dict.keys_mapValues]
    exact Dict.mem_keys.mpr ⟨c, hget⟩
  rw [Dict.set_eq_mapValues _ hmem, dependentLessons, Dict.update_selected]
  simp only [Store.retired, hlessons, hpolicies, mem_requestedIds_kind hkind, mem_cascading_concat hkind hget,
    Dict.mapValues_mapValues]
  congr 1
  · refine Dict.mapValues_congr fun k d hd => ?_
    by_cases hk : k = r.memoryId
    · subst hk
      rw [if_pos (.inr rfl), if_pos rfl, Option.some.inj (hget.symm.trans hd)]
    · rw [if_neg hk]
      simp only [hk, or_false]
  · refine Dict.mapValues_congr fun k l _ => ?_
    by_cases hdone : k ∈ requestedIds .lesson done ∨ l.sourceCaseId ∈ s.cascadingCaseIds (requestedIds .failureCase done)
    · have hwide : k ∈ requestedIds .lesson done ∨ l.sourceCaseId ∈ s.cascadingCaseIds (requestedIds .failureCase done) ∨
          l.sourceCaseId = r.memoryId ∧ c.status ≠ .obsolete := hdone.imp_right .inl
      have hretired : ¬((transitionLessonToObsolete l).sourceCaseId = r.memoryId ∧
          (transitionLessonToObsolete l).status = .active) := fun h => LessonStatus.noConfusion h.2
      rw [if_pos hdone, if_pos hwide, if_neg (by simpa using hretired)]
    · rw [if_neg hdone]
      have hwide : (k ∈ requestedIds .lesson done ∨ l.sourceCaseId ∈ s.cascadingCaseIds (requestedIds .failureCase done) ∨
          l.sourceCaseId = r.memoryId ∧ c.status ≠ .obsolete) ↔ l.sourceCaseId = r.memoryId := by
        rw [← or_assoc]
        exact (or_iff_right hdone).trans (and_iff_left hlive)
      simp only [hwide, decide_eq_true_eq]
      rcases active_or_obsolete l with hactive | hobsolete
      · simp only [hactive, and_true]
      · rw [obsolete_lesson hobsolete, ite_self, ite_self]

theorem retired_obsolete_case {c : FailureCase} (hkind : r.memoryKind = .failureCase)
    (hget : s.failureCases.get? r.memoryId = some c) (hobsolete : c.status = .obsolete) :
    s.retired (done ++ [r]) = s.retired done := by
  have hlessons (k : Str) : k ∈ requestedIds .lesson (done ++ [r]) ↔ k ∈ requestedIds .lesson done :=
    mem_requestedIds_other (by rw [hkind]; decide)
  have hpolicies (k : Str) : k ∈ requestedIds .projectPolicy (done ++ [r]) ↔ k ∈ requestedIds .projectPolicy done :=
    mem_requestedIds_other (by rw [hkind]; decide)
  have hcascade (k : Str) : k ∈ s.cascadingCaseIds (requestedIds .failureCase (done ++ [r])) ↔
      k ∈ s.cascadingCaseIds (requestedIds .failureCase done) := by
    rw [mem_cascading_concat hkind hget]
    exact or_iff_left fun h => h.2 hobsolete
  simp only [Store.retired, hlessons, hpolicies, hcascade, mem_requestedIds_kind hkind]
  congr 1
  refine Dict.mapValues_congr fun k d hd => ?_
  by_cases hk : k = r.memoryId
  · subst hk
    rw [if_pos (.inr rfl), ← Option.some.inj (hget.symm.trans hd), obsolete_case hobsolete, ite_self]
  · simp only [hk, or_false]

theorem obsoleteCase_step (h : Retirable py s requests) (hr : r ∈ requests) (hkind : r.memoryKind = .failureCase)
    (hnew : r.memoryId ∉ done.map MemoryObsolescenceRequest.memoryId) :
    ∃ c, obsoleteFailureCase py r.memoryId (s.retired done) = .ok c (s.retired (done ++ [r])) := by
  have hstored := h.stored r hr
  rw [Store.checkRequested, hkind] at hstored
  obtain ⟨c, hc, -⟩ := bind_eq_ok.mp hstored
  have hget := storedRecord_eq_ok hc
  have hlater : (s.retired done).failureCases.get? r.memoryId = some c := by
    rw [Store.retired, Dict.get?_mapValues, hget, Option.map_some, if_neg (not_mem_requestedIds hnew)]
  by_cases hobsolete : c.status = .obsolete
  · rw [retired_obsolete_case hkind hget hobsolete]
    refine ⟨c, run_bind_eq_ok.mpr ⟨c, _, run_inspect_eq_ok.mpr ⟨storedRecord_at hc hlater, rfl⟩, ?_⟩⟩
    rw [if_pos hobsolete]
    rfl
  · have hid : r.memoryId ∈ requestedIds .failureCase requests := hkind ▸ requestedIds_mem hr
    have hdependents : (s.retired done).obsoletedDependents py r.memoryId (transitionFailureCaseToObsolete c) =
        .ok (dependentLessons (s.retired done).lessons r.memoryId) := by
      simp only [Store.obsoletedDependents, bind_eq_ok, exists_unit, checkEach_eq_ok, pure_eq_ok, and_true]
      refine ⟨h.cases _ _ hget hid, fun l hl => ?_⟩
      obtain ⟨k, hk⟩ := Dict.mem_values.mp hl
      rw [dependentLessons, Dict.get?_mapValues, Dict.get?_filterEntries, Option.map_eq_some_iff] at hk
      obtain ⟨m, hm, rfl⟩ := hk
      obtain ⟨hm, hselected⟩ := Option.filter_eq_some_iff.mp hm
      obtain ⟨hsource, hactive⟩ := of_decide_eq_true hselected
      rw [Store.retired, Dict.get?_mapValues, Option.map_eq_some_iff] at hm
      obtain ⟨stored, hstored, rfl⟩ := hm
      split_ifs at hsource hactive ⊢
      · exact LessonStatus.noConfusion hactive
      · exact h.lessons k stored hstored (.inr ⟨mem_cascading.mpr ⟨hsource ▸ hid, c, hsource ▸ hget, hobsolete⟩, hactive⟩)
    rw [retired_case hkind hget hobsolete]
    refine ⟨transitionFailureCaseToObsolete c,
      run_bind_eq_ok.mpr ⟨c, _, run_inspect_eq_ok.mpr ⟨storedRecord_at hc hlater, rfl⟩, ?_⟩⟩
    rw [if_neg hobsolete]
    exact run_bind_eq_ok.mpr ⟨_, _, run_inspect_eq_ok.mpr ⟨hdependents, rfl⟩, rfl⟩

theorem obsoleteMemory_step (h : Retirable py s requests) (hr : r ∈ requests)
    (hnew : r.memoryId ∉ done.map MemoryObsolescenceRequest.memoryId) :
    ∃ m, obsoleteMemory py r (s.retired done) = .ok m (s.retired (done ++ [r])) := by
  cases hkind : r.memoryKind with
  | failureCase =>
    obtain ⟨c, hc⟩ := obsoleteCase_step h hr hkind hnew
    rw [obsoleteMemory, hkind]
    exact ⟨.failureCase c, run_map_eq_ok.mpr ⟨c, hc, rfl⟩⟩
  | lesson =>
    obtain ⟨l, hl⟩ := obsoleteLesson_step h hr hkind hnew
    rw [obsoleteMemory, hkind]
    exact ⟨.lesson l, run_map_eq_ok.mpr ⟨l, hl, rfl⟩⟩
  | projectPolicy =>
    obtain ⟨p, hp⟩ := obsoletePolicy_step h hr hkind hnew
    rw [obsoleteMemory, hkind]
    exact ⟨.projectPolicy p, run_map_eq_ok.mpr ⟨p, hp, rfl⟩⟩

theorem obsoleteEach (h : Retirable py s requests) {rest : List MemoryObsolescenceRequest}
    (hperm : (done ++ rest).Perm requests) :
    forEach (obsoleteMemory py) rest (s.retired done) = .ok () (s.retired (done ++ rest)) := by
  induction rest generalizing done with
  | nil =>
    rw [List.append_nil]
    rfl
  | cons r rest ih =>
    have hunique := (hperm.map MemoryObsolescenceRequest.memoryId).nodup_iff.mpr h.unique
    rw [List.map_append, List.map_cons] at hunique
    have hnew : r.memoryId ∉ done.map MemoryObsolescenceRequest.memoryId := fun hmem =>
      (List.nodup_append.mp hunique).2.2 _ hmem _ List.mem_cons_self rfl
    obtain ⟨m, hm⟩ := obsoleteMemory_step h (hperm.subset (List.mem_append_right done List.mem_cons_self)) hnew
    have hrest := @ih (done ++ [r]) (by rw [List.append_assoc]; exact hperm)
    rw [List.append_assoc] at hrest
    exact run_bind_eq_ok.mpr ⟨m, _, hm, hrest⟩

end Batches

section Laws

theorem batch_obsolescence (py : Python) (s : Store) (requests : List MemoryObsolescenceRequest) :
    (∀ memories s', obsoleteMemories py requests s = .ok memories s' →
      ∀ order, order.Perm requests → forEach (obsoleteMemory py) order s = .ok () s') ∧
    (∀ e s', obsoleteMemories py requests s = .error e s' → s' = s) := by
  refine ⟨fun memories s' h order hperm => ?_, fun e s' h => atomic_obsoleteMemories requests s e s' h⟩
  obtain ⟨hretirable, rfl⟩ := obsoleteMemories_eq_ok h
  have hrun := @obsoleteEach py s requests [] hretirable order hperm
  rw [retired_nil, List.nil_append] at hrun
  rw [hrun, retired_congr fun r => hperm.mem_iff]

set_option maxRecDepth 20000 in
theorem sampleStore_obsoletes : returns (obsoleteMemories asciiPython
    [⟨.lesson, lit "lesson_1"⟩, ⟨.failureCase, lit "case_1"⟩] sampleStore) = true := by
  decide +kernel

theorem batch_obsolescence_sample : ∃ memories s',
    obsoleteMemories asciiPython [⟨.lesson, lit "lesson_1"⟩, ⟨.failureCase, lit "case_1"⟩] sampleStore =
      .ok memories s' ∧
    forEach (obsoleteMemory asciiPython) [⟨.failureCase, lit "case_1"⟩, ⟨.lesson, lit "lesson_1"⟩] sampleStore =
      .ok () s' := by
  obtain ⟨memories, s', h⟩ := exists_of_returns sampleStore_obsoletes
  exact ⟨memories, s', h, (batch_obsolescence asciiPython sampleStore _).1 memories s' h _ (List.Perm.swap _ _ _)⟩

end Laws

end TraceBackedMemory
