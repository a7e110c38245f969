import TraceBackedMemory.Migration.Planner
import TraceBackedMemory.Store.Atomicity

namespace TraceBackedMemory

open Text Raising

namespace Migration

section Contents

structure Contents where
  traces : List Trace
  failureCases : List FailureCase
  lessons : List Lesson
  projectPolicies : List ProjectPolicy
  usageLogs : List MemoryUsageLog

def contents (s : Store) : Contents :=
  ⟨s.traces.values, s.failureCases.values, s.lessons.values, s.projectPolicies.values, s.usageLogs⟩

theorem values_set_of_none {α : Type} {d : Dict Str α} {k : Str} (v : α) (h : d.get? k = none) :
    (d.set k v).values = d.values ++ [v] := by
  rw [Dict.values, Dict.entries_set_of_none v h, List.map_append]
  rfl

variable {py : Python} {env : Env} {s t : Store} {u : Unit}

theorem forEach_traces {l : List Trace} (h : forEach (recordTrace py env) l s = .ok u t) :
    contents t = { contents s with traces := (contents s).traces ++ l } := by
  induction l generalizing s with
  | nil =>
    cases h
    simp [contents]
  | cons a l ih =>
    obtain ⟨b, s', hb, hr⟩ := run_bind_eq_ok.mp h
    obtain ⟨-, hfresh, -, -, rfl⟩ := recordTrace_eq_ok.mp hb
    rw [ih hr]
    simp [contents, Store.withTrace, values_set_of_none a hfresh]

theorem forEach_cases {l : List FailureCase} (h : forEach addFailureCase l s = .ok u t) :
    contents t = { contents s with failureCases := (contents s).failureCases ++ l } := by
  induction l generalizing s with
  | nil =>
    cases h
    simp [contents]
  | cons a l ih =>
    obtain ⟨b, s', hb, hr⟩ := run_bind_eq_ok.mp h
    obtain ⟨hc, -, rfl⟩ := addFailureCase_eq_ok.mp hb
    obtain ⟨-, hfresh, -⟩ := checkNewFailureCase_eq_ok.mp hc
    rw [ih hr]
    simp [contents, values_set_of_none a hfresh]

theorem forEach_lessons {l : List Lesson} (h : forEach (addLesson py) l s = .ok u t) :
    contents t = { contents s with lessons := (contents s).lessons ++ l } := by
  induction l generalizing s with
  | nil =>
    cases h
    simp [contents]
  | cons a l ih =>
    obtain ⟨b, s', hb, hr⟩ := run_bind_eq_ok.mp h
    obtain ⟨hc, -, rfl⟩ := addLesson_eq_ok.mp hb
    obtain ⟨-, hfresh, -⟩ := validatedLessonCandidate_eq_ok.mp hc
    rw [ih hr]
    simp [contents, values_set_of_none a hfresh]

theorem forEach_policies {l : List ProjectPolicy} (h : forEach (addProjectPolicy py) l s = .ok u t) :
    contents t = { contents s with projectPolicies := (contents s).projectPolicies ++ l } := by
  induction l generalizing s with
  | nil =>
    cases h
    simp [contents]
  | cons a l ih =>
    obtain ⟨b, s', hb, hr⟩ := run_bind_eq_ok.mp h
    obtain ⟨hc, -, rfl⟩ := addProjectPolicy_eq_ok.mp hb
    obtain ⟨-, hfresh, -⟩ := checkNewProjectPolicy_eq_ok.mp hc
    rw [ih hr]
    simp [contents, values_set_of_none a hfresh]

theorem snapshotLog_current {r : UsageLogRecord} {log : MemoryUsageLog} (h : s.snapshotLog py true r = .ok log) :
    log = r.asLog := by
  simp only [Store.snapshotLog, if_true, bind_eq_ok, exists_unit, pure_eq_ok] at h
  obtain ⟨_, ⟨-, rfl⟩, -, -, -, rfl⟩ := h
  rfl

theorem forEach_logs {l : List UsageLogRecord} (h : forEach (loadUsageLog py env true) l s = .ok u t) :
    contents t = { contents s with usageLogs := (contents s).usageLogs ++ l.map UsageLogRecord.asLog } := by
  induction l generalizing s with
  | nil =>
    cases h
    simp [contents]
  | cons a l ih =>
    obtain ⟨b, s', hb, hr⟩ := run_bind_eq_ok.mp h
    obtain ⟨log, hlog, -, next, -, rfl⟩ := loadUsageLog_eq_ok.mp hb
    obtain rfl := snapshotLog_current hlog
    rw [ih hr]
    simp [contents, Store.appended]

end Contents

section Sources

variable {py : Python} {env : Env} {token : Nat} {session : SessionId} {source : SnapshotSource} {store : Store}

-- what the loader read, and the checks that every record passed on the way
structure Loaded (py : Python) (source : SnapshotSource) (store : Store) : Prop where
  contents : contents store = ⟨source.snapshot.traces, source.snapshot.failureCases, source.snapshot.lessons,
    source.snapshot.projectPolicies, source.snapshot.usageLogs.map UsageLogRecord.asLog⟩
  sound : Sound py store
  limits : validateSnapshotCollectionLimits source.snapshot {} = .ok ()
  frozen : freezable 0 source.document.1 = true

theorem loadSource_loaded (h : loadSource py env token session source = .ok store) : Loaded py source store := by
  simp only [loadSource, bind_eq_ok, exists_unit] at h
  obtain ⟨fields, hfields, -, h⟩ := h
  have hfrozen : freezable 0 source.document.1 = true := by
    cases hdocument : source.document.1 with
    | obj fields =>
      simp only [freezeSourceSnapshot, hdocument, bind_eq_ok, exists_unit, raiseIf_eq_ok, Bool.not_eq_false] at hfields
      exact hfields.1
    | _ =>
      rw [hdocument] at hfields
      cases hfields
  cases hload : fromSnapshot py env token session {} source.snapshot with
  | error e =>
    rw [hload] at h
    cases h
  | ok loaded =>
    rw [hload] at h
    cases h
    obtain ⟨hlimits, hrun⟩ := fromSnapshot_eq_ok.mp hload
    have hquiet := quiet_loadSnapshot ⟨sound_fresh py token session, rfl⟩ hrun
    simp only [loadSnapshot, run_bind_eq_ok, source.current] at hrun
    obtain ⟨_, s₁, h₁, _, s₂, h₂, _, s₃, h₃, _, s₄, h₄, h₅⟩ := hrun
    refine ⟨?_, hquiet.1, hlimits, hfrozen⟩
    rw [forEach_logs h₅, forEach_policies h₄, forEach_lessons h₃, forEach_cases h₂, forEach_traces h₁]
    simp [Migration.contents, Store.fresh, Dict.values, Dict.empty]

end Sources

end Migration

end TraceBackedMemory
