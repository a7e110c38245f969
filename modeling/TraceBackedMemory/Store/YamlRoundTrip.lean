import TraceBackedMemory.Store.YamlLines
import TraceBackedMemory.Store.Runs

namespace TraceBackedMemory

open Text Raising

variable {py : Python} {limit : Option Nat}

section Lines

def Free (s : Str) : Prop := ∀ c ∈ s, isLineBoundary c = false

def NewlineOnly (s : Str) : Prop := ∀ c ∈ s, isLineBoundary c = true → c = newline

def physical (ls : List Str) : List Str := ls.flatMap (fun l => splitlines (l ++ [newline]))

theorem physical_append (ls ms : List Str) : physical (ls ++ ms) = physical ls ++ physical ms := by
  simp [physical]

theorem physical_of_free {ls : List Str} (h : ∀ l ∈ ls, Free l) : physical ls = ls := by
  induction ls with
  | nil => rfl
  | cons l ls ih =>
    have hl : splitlines (l ++ [newline]) = [l] := splitlines_of_free (h l (by simp))
    have htail := ih fun m hm => h m (List.mem_cons_of_mem _ hm)
    simp only [physical, List.flatMap_cons, hl] at htail ⊢
    rw [htail]
    rfl

theorem free_physical {ls : List Str} {l : Str} (h : l ∈ physical ls) : Free l := by
  obtain ⟨m, _, hl⟩ := List.mem_flatMap.mp h
  exact splitlines_free _ l hl

theorem Free.append {s t : Str} (hs : Free s) (ht : Free t) : Free (s ++ t) := by
  intro c hc
  rcases List.mem_append.mp hc with hc | hc
  · exact hs c hc
  · exact ht c hc

theorem free_of_all {s : Str} (h : s.all (fun c => !isLineBoundary c) = true) : Free s := by
  intro c hc
  simpa using List.all_eq_true.mp h c hc

theorem free_dumpsString (s : Str) : Free (dumpsString s) :=
  fun _ hc => printable_not_boundary (mem_dumpsString_printable hc)

theorem free_of_numeric {s : Str} (h : s.all numeric = true) : Free s :=
  fun c hc => numeric_not_boundary c (List.all_eq_true.mp h c hc)

theorem free_of_plainKey {s : Str} (h : plainKey s = true) : Free s := by
  intro c hc
  simp only [plainKey, Bool.and_eq_true] at h
  have hl := List.all_eq_true.mp h.2 c hc
  simp only [letterOrUnderscore, decide_eq_true_eq] at hl
  exact printable_not_boundary (by omega)

theorem free_fieldLine {k v : Str} (hk : plainKey k = true) (hv : Free v) : Free (fieldLine k v) := by
  have hs : Free (lit "    ") := free_of_all (by decide)
  have hc : Free (lit ": ") := free_of_all (by decide)
  exact ((hs.append (free_of_plainKey hk)).append hc).append hv

theorem free_recordLine (l : Lesson) : Free (recordLine l) := by
  have hs : Free (lit "  - lesson_id: ") := free_of_all (by decide)
  exact hs.append (free_dumpsString _)

theorem free_yamlBool (b : Bool) : Free (yamlBool b) := by
  cases b <;> exact free_of_all (by decide)

theorem free_headerFields {l : Lesson} (hl : Readable py l) :
    ∀ f ∈ headerFields py l, Free f.2.1 := by
  simp only [headerFields, List.forall_mem_cons, List.not_mem_nil, false_imp_iff, implies_true,
    and_true]
  exact ⟨free_dumpsString _, free_dumpsString _, free_dumpsString _,
    free_of_numeric hl.confidence.characters, free_yamlBool _, free_yamlBool _⟩

theorem free_headLines {l : Lesson} (hl : Readable py l) : ∀ ln ∈ headLines py l, Free ln := by
  intro ln hln
  simp only [headLines, List.mem_append, List.mem_map, List.mem_singleton] at hln
  rcases hln with ((⟨f, hf, rfl⟩ | rfl) | ⟨f, hf, rfl⟩) | rfl
  · exact free_fieldLine (headerFields_text hl.confidence f hf).key (free_headerFields hl f hf)
  · exact free_of_all (by decide)
  · have hs : Free (lit "      ") := free_of_all (by decide)
    have hc : Free (lit ": ") := free_of_all (by decide)
    exact ((hs.append (free_of_plainKey (hl.scope_keys f hf))).append hc).append
      (free_dumpsString _)
  · exact free_of_all (by decide)

theorem physical_lessonLines {l : Lesson} (hl : Readable py l) :
    physical (lessonLines py l) = recordLine l :: headLines py l ++
      physical ((splitNewline l.lessonText).map lessonTextLine) := by
  have hhead : ∀ ln ∈ recordLine l :: headLines py l, Free ln := by
    intro ln hln
    rcases List.mem_cons.mp hln with rfl | hln
    · exact free_recordLine l
    · exact free_headLines hl ln hln
  rw [lessonLines_eq, physical_append, physical_of_free hhead]

theorem mem_splitNewline {s ln : Str} (h : ln ∈ splitNewline s) :
    newline ∉ ln ∧ ∀ c ∈ ln, c ∈ s := by
  induction s generalizing ln with
  | nil =>
    simp only [splitNewline, List.splitOn_nil, List.mem_singleton] at h
    subst h
    simp
  | cons d s ih =>
    simp only [splitNewline, List.splitOn_cons_eq_if_modifyHead] at h
    split at h
    · rcases List.mem_cons.mp h with rfl | h
      · simp
      · exact ⟨(ih h).1, fun c hc => List.mem_cons_of_mem _ ((ih h).2 c hc)⟩
    · rename_i hd
      have hd : d ≠ newline := by simpa using hd
      obtain ⟨m, ms, hm⟩ := List.exists_cons_of_ne_nil (List.splitOn_ne_nil newline s)
      rw [hm, List.modifyHead_cons] at h
      have hmem : m ∈ splitNewline s := by
        rw [splitNewline, hm]
        simp
      rcases List.mem_cons.mp h with rfl | h
      · refine ⟨?_, fun c hc => ?_⟩
        · simp only [List.mem_cons, not_or]
          exact ⟨hd.symm, (ih hmem).1⟩
        · rcases List.mem_cons.mp hc with rfl | hc
          · simp
          · exact List.mem_cons_of_mem _ ((ih hmem).2 c hc)
      · have hin : ln ∈ splitNewline s := by
          rw [splitNewline, hm]
          exact List.mem_cons_of_mem _ h
        exact ⟨(ih hin).1, fun c hc => List.mem_cons_of_mem _ ((ih hin).2 c hc)⟩

theorem free_textLines {text : Str} (h : NewlineOnly text) :
    ∀ ln ∈ (splitNewline text).map lessonTextLine, Free ln := by
  intro ln hln
  obtain ⟨m, hm, rfl⟩ := List.mem_map.mp hln
  have hs : Free (lit "      ") := free_of_all (by decide)
  refine hs.append fun c hc => ?_
  obtain ⟨hnot, hmem⟩ := mem_splitNewline hm
  cases hb : isLineBoundary c with
  | false => rfl
  | true =>
    have he := h c (hmem c hc) hb
    subst he
    exact absurd hc hnot

theorem newlineOnly_joinNewline {ls : List Str} (h : ∀ l ∈ ls, Free l) :
    NewlineOnly (joinNewline ls) := by
  induction ls with
  | nil => simp [joinNewline, NewlineOnly]
  | cons a ls ih =>
    cases ls with
    | nil =>
      intro c hc hb
      simp only [joinNewline, List.intercalate_singleton] at hc
      rw [h a (by simp) c hc] at hb
      cases hb
    | cons b ls =>
      intro c hc hb
      rw [joinNewline_cons_cons] at hc
      rcases List.mem_append.mp hc with hc | hc
      · rw [h a (by simp) c hc] at hb
        cases hb
      · rcases List.mem_cons.mp hc with rfl | hc
        · rfl
        · exact ih (fun l hl => h l (List.mem_cons_of_mem _ hl)) c hc hb

theorem physical_lessonLines_of_newlineOnly {l : Lesson} (hl : Readable py l)
    (ht : NewlineOnly l.lessonText) : physical (lessonLines py l) = lessonLines py l := by
  rw [physical_lessonLines hl, physical_of_free (free_textLines ht), lessonLines_eq]

theorem physical_flatMap {L : List Lesson} :
    physical (L.flatMap (lessonLines py)) = L.flatMap (fun l => physical (lessonLines py l)) := by
  simp only [physical, List.flatMap_assoc]

end Lines

section Completeness

def exportedRecord (py : Python) (l : Lesson) : YamlRecord :=
  (headRecord py l).set (lit "lesson_text") (.scalar (.str l.lessonText))

theorem read_lesson {st : YamlState} {l : Lesson} (hl : Readable py l)
    (hlimit : ∀ n, limit = some n → (finished st).length ≤ n) :
    accumulate (readLine py limit) st (lessonLines py l) =
      .ok (inText (finished st) (headRecord py l) (splitNewline l.lessonText)) := by
  rw [lessonLines_eq, List.cons_append, accumulate, read_recordLine l hlimit]
  show accumulate _ _ (headLines py l ++ _) = _
  rw [accumulate_append, read_headLines hl]
  exact read_textLines (splitNewline l.lessonText)

theorem finished_read_lesson (py : Python) (ls : List YamlRecord) (l : Lesson) :
    finished (inText ls (headRecord py l) (splitNewline l.lessonText)) =
      ls ++ [exportedRecord py l] := by
  have hjoin := joinNewline_splitNewline l.lessonText
  simp only [finished, inText, finishBlock, if_true, Option.map_some, Option.toList_some, hjoin,
    exportedRecord]

theorem read_lessons {L : List Lesson} (st : YamlState) (hL : ∀ l ∈ L, Readable py l)
    (hlimit : ∀ n, limit = some n → (finished st).length + L.length ≤ n) :
    ∃ st', accumulate (readLine py limit) st (L.flatMap (lessonLines py)) = .ok st' ∧
      finished st' = finished st ++ L.map (exportedRecord py) := by
  induction L generalizing st with
  | nil => exact ⟨st, rfl, by simp⟩
  | cons l L ih =>
    have hfirst : ∀ n, limit = some n → (finished st).length ≤ n := by
      intro n hn
      have := hlimit n hn
      omega
    have hnext := finished_read_lesson py (finished st) l
    obtain ⟨st', hrun, hdone⟩ := @ih (inText (finished st) (headRecord py l) (splitNewline l.lessonText))
      (fun m hm => hL m (List.mem_cons_of_mem _ hm)) (by
        intro n hn
        have hle := hlimit n hn
        rw [hnext, List.length_append, List.length_singleton]
        simp only [List.length_cons] at hle
        omega)
    refine ⟨st', ?_, ?_⟩
    · rw [List.flatMap_cons, accumulate_append, read_lesson (hL l (by simp)) hfirst]
      exact hrun
    · rw [hdone, hnext]
      simp

theorem lessonsFromYaml_toYaml {L : List Lesson} (hL : L ≠ []) :
    lessonsFromYaml py (lessonsToYaml py L) limit =
      (accumulate (readLine py limit) {} (physical (L.flatMap (lessonLines py))) >>= fun st =>
        finishLesson limit st >>= fun st => pure st.lessons) := by
  have hfirst : splitlines (lit "lessons:" ++ [newline]) = [lit "lessons:"] := by decide
  have hblank : isBlank (lit "lessons:") = false := by decide
  have hempty : lit "lessons:" ≠ lit "lessons: []" := by decide
  have hlines : splitlines (lessonsToYaml py L) =
      lit "lessons:" :: physical (L.flatMap (lessonLines py)) := by
    rw [lessonsToYaml, if_neg (by simp [hL]), splitlines_joinNewline, List.flatMap_cons, hfirst]
    rfl
  have hdrop : (splitlines (lessonsToYaml py L)).dropWhile (fun l => isBlank l) =
      lit "lessons:" :: physical (L.flatMap (lessonLines py)) := by
    rw [hlines, List.dropWhile_cons_of_neg (by simp [hblank])]
  simp only [lessonsFromYaml, hdrop, if_neg hempty, ne_eq, not_true_eq_false, if_false]

theorem lessonsFromYaml_exports {L : List Lesson} (hL : ∀ l ∈ L, Readable py l)
    (ht : ∀ l ∈ L, NewlineOnly l.lessonText) (hlimit : ∀ n, limit = some n → L.length ≤ n) :
    lessonsFromYaml py (lessonsToYaml py L) limit = .ok (L.map (exportedRecord py)) := by
  cases L with
  | nil =>
    have hlines : (splitlines (lit "lessons: []" ++ [newline])).dropWhile (fun l => isBlank l) =
        [lit "lessons: []"] := by decide
    simp only [lessonsFromYaml, lessonsToYaml, List.isEmpty_nil, if_true, hlines, List.map_nil]
  | cons l L =>
    have hphysical : physical ((l :: L).flatMap (lessonLines py)) =
        (l :: L).flatMap (lessonLines py) := by
      rw [physical_flatMap]
      exact List.flatMap_congr fun m hm => physical_lessonLines_of_newlineOnly (hL m hm) (ht m hm)
    obtain ⟨st, hrun, hdone⟩ := read_lessons {} hL (by
      intro n hn
      have := hlimit n hn
      simpa [finished, finishBlock] using this)
    have hdone : finished st = (l :: L).map (exportedRecord py) := hdone
    rw [lessonsFromYaml_toYaml (by simp), hphysical, hrun]
    show (finishLesson limit st >>= fun st => pure st.lessons) = _
    rw [finishLesson_total (by
      intro n hn
      rw [hdone, List.length_map]
      exact hlimit n hn)]
    exact congrArg Except.ok hdone

end Completeness

section Exports

def exportedFields : List Str :=
  [lit "lesson_id", lit "source_case_id", lit "memory_type", lit "status", lit "confidence",
    lit "sensitive", lit "eval_leaking", lit "scope", lit "lesson_text"]

def scopeEntries (l : Lesson) : List (Str × YamlScalar) :=
  l.scope.entries.map (fun f => (f.1, .str f.2))

structure Exports (l : Lesson) (r : YamlRecord) : Prop where
  keys : r.keys = exportedFields
  lesson_id : r.get? (lit "lesson_id") = some (.scalar (.str l.lessonId))
  source_case_id : r.get? (lit "source_case_id") = some (.scalar (.str l.sourceCaseId))
  memory_type : r.get? (lit "memory_type") = some (.scalar (.str l.memoryType.text))
  status : r.get? (lit "status") = some (.scalar (.str (lessonStatusText l.status)))
  confidence : ∃ x, r.get? (lit "confidence") = some (.scalar (.float x)) ∧
    Number.eq (.float x) l.confidence = true
  sensitive : r.get? (lit "sensitive") = some (.scalar (.bool l.sensitive))
  eval_leaking : r.get? (lit "eval_leaking") = some (.scalar (.bool l.evalLeaking))
  scope : ∃ fields, r.get? (lit "scope") = some (.map fields) ∧ fields.entries = scopeEntries l
  lesson_text : r.get? (lit "lesson_text") = some (.scalar (.str l.lessonText))

def RoundTrips (py : Python) (maxLessons : Option Nat) (L : List Lesson) : Prop :=
  ∃ rs, lessonsFromYaml py (lessonsToYaml py L) maxLessons = .ok rs ∧ List.Forall₂ Exports L rs

def readScope (l : Lesson) : Dict Str YamlScalar :=
  Dict.ofList (l.scope.entries.map (fun f => (f.1, .str (joinSurrogates f.2))))

theorem entries_readScope (l : Lesson) :
    (readScope l).entries = l.scope.entries.map (fun f => (f.1, .str (joinSurrogates f.2))) := by
  have hkeys : (l.scope.entries.map (fun f => (f.1, YamlScalar.str (joinSurrogates f.2)))).map
      Prod.fst = l.scope.entries.map Prod.fst := by simp
  rw [readScope, Dict.ofList, Dict.entries_update_of_nodup]
  · rfl
  · rw [hkeys]
    exact l.scope.nodup

theorem entries_exportedRecord (py : Python) (l : Lesson) :
    (exportedRecord py l).entries =
      [(lit "lesson_id", .scalar (.str (joinSurrogates l.lessonId))),
        (lit "source_case_id", .scalar (.str (joinSurrogates l.sourceCaseId))),
        (lit "memory_type", .scalar (.str l.memoryType.text)),
        (lit "status", .scalar (.str (lessonStatusText l.status))),
        (lit "confidence", .scalar (.float (unitDouble l.confidence))),
        (lit "sensitive", .scalar (.bool l.sensitive)),
        (lit "eval_leaking", .scalar (.bool l.evalLeaking)),
        (lit "scope", .map (readScope l)),
        (lit "lesson_text", .scalar (.str l.lessonText))] := by
  have hscope : lit "scope" ∉ ((startRecord l).update
      ((headerFields py l).map (fun f => (f.1, .scalar f.2.2)))).keys := by
    rw [keys_header]
    decide
  have htext : lit "lesson_text" ∉ (headRecord py l).keys := by
    rw [headRecord, Dict.keys_set_of_not_mem _ hscope, keys_header]
    decide
  rw [exportedRecord, Dict.entries_set_of_none _ (Dict.get?_eq_none.mpr htext), headRecord,
    Dict.entries_set_of_none _ (Dict.get?_eq_none.mpr hscope), Dict.entries_update_of_nodup]
  · rfl
  · rw [keys_startRecord]
    exact headerKeys_nodup

theorem get?_exportedRecord {l : Lesson} {k : Str} {v : YamlValue} :
    (exportedRecord py l).get? k = some v ↔ (k, v) ∈ (exportedRecord py l).entries :=
  Dict.get?_eq_some

structure ScalarSafe (l : Lesson) : Prop where
  lesson_id : PairFree l.lessonId
  source_case_id : PairFree l.sourceCaseId
  scope : ∀ f ∈ l.scope.entries, PairFree f.2

theorem entries_readScope_eq_iff (l : Lesson) :
    (readScope l).entries = scopeEntries l ↔ ∀ f ∈ l.scope.entries, PairFree f.2 := by
  rw [entries_readScope, scopeEntries, List.map_inj_left]
  constructor
  · intro h f hf
    have heq := (Prod.mk.inj (h f hf)).2
    exact (joinSurrogates_eq_self_iff f.2).mp (YamlScalar.str.inj heq)
  · intro h f hf
    rw [(joinSurrogates_eq_self_iff f.2).mpr (h f hf)]

theorem exports_exportedRecord {l : Lesson} (hl : UnitText py l.confidence) :
    Exports l (exportedRecord py l) ↔ ScalarSafe l := by
  have hentries := entries_exportedRecord py l
  have hid : (exportedRecord py l).get? (lit "lesson_id") =
      some (.scalar (.str (joinSurrogates l.lessonId))) := by
    rw [get?_exportedRecord, hentries]
    simp
  have hcase : (exportedRecord py l).get? (lit "source_case_id") =
      some (.scalar (.str (joinSurrogates l.sourceCaseId))) := by
    rw [get?_exportedRecord, hentries]
    simp
  have hscope : (exportedRecord py l).get? (lit "scope") = some (.map (readScope l)) := by
    rw [get?_exportedRecord, hentries]
    simp
  constructor
  · intro h
    refine ⟨?_, ?_, ?_⟩
    · have heq := Option.some.inj (hid.symm.trans h.lesson_id)
      rw [← joinSurrogates_eq_self_iff]
      simpa using heq
    · have heq := Option.some.inj (hcase.symm.trans h.source_case_id)
      rw [← joinSurrogates_eq_self_iff]
      simpa using heq
    · obtain ⟨fields, hfields, hsame⟩ := h.scope
      have heq := YamlValue.map.inj (Option.some.inj (hscope.symm.trans hfields))
      rw [← heq] at hsame
      exact (entries_readScope_eq_iff l).mp hsame
  · intro h
    rw [(joinSurrogates_eq_self_iff _).mpr h.lesson_id] at hid
    rw [(joinSurrogates_eq_self_iff _).mpr h.source_case_id] at hcase
    have hscopes := (entries_readScope_eq_iff l).mpr h.scope
    refine ⟨?_, hid, hcase, ?_, ?_, ⟨unitDouble l.confidence, ?_, hl.equal⟩, ?_, ?_,
      ⟨readScope l, hscope, hscopes⟩, ?_⟩
    · rw [Dict.keys, hentries]
      rfl
    all_goals
      rw [get?_exportedRecord, hentries]
      simp

end Exports

section Soundness

theorem mem_of_mem_strip {s : Str} {c : CodePoint} (h : c ∈ strip s) : c ∈ s := by
  simp only [strip, rstrip, List.mem_reverse] at h
  have hl := (List.dropWhile_sublist _).subset h
  rw [List.mem_reverse] at hl
  exact (List.dropWhile_sublist _).subset hl

theorem free_blockLine {raw other : Str} (hr : Free raw) (ho : Free other) :
    Free (blockLine raw other) := by
  unfold blockLine
  split
  · exact fun c hc => hr c (List.mem_of_mem_drop hc)
  · exact ho

inductive ReadStep (py : Python) (limit : Option Nat) (st : YamlState) (raw : Str) :
    YamlState → Prop
  | text (other : Str) (hin : st.inBlock = true) (ho : ∀ c ∈ other, c ∈ raw) :
      ReadStep py limit st raw { st with blockLines := st.blockLines ++ [blockLine raw other] }
  | blank : ReadStep py limit st raw st
  | record (st₁ : YamlState) (r : YamlRecord) (hf : finishLesson limit st = .ok st₁) :
      ReadStep py limit st raw { st₁ with current := some r, inBlock := false }
  | field (r : YamlRecord) (k : Str) (v : YamlValue) (hr : (finishBlock st).current = some r)
      (hk : k ∉ r.keys) :
      ReadStep py limit st raw { finishBlock st with current := some (r.set k v) }
  | header (r : YamlRecord) (hr : (finishBlock st).current = some r)
      (hk : lit "lesson_text" ∉ r.keys) :
      ReadStep py limit st raw { finishBlock st with inBlock := true, blockLines := [] }
  | scope (r : YamlRecord) (v : YamlValue) (hin : st.inBlock = false) (hr : st.current = some r) :
      ReadStep py limit st raw { st with current := some (r.set (lit "scope") v) }

theorem readFieldLine_step {st st' : YamlState} {r : YamlRecord} {raw stripped : Str}
    (hr : (finishBlock st).current = some r)
    (h : readFieldLine py (finishBlock st) r stripped = .ok st') : ReadStep py limit st raw st' := by
  simp only [readFieldLine, bind_eq_ok, exists_unit, raiseIf_eq_ok, Bool.not_eq_true,
    Dict.contains_eq_false, Dict.get?_eq_none] at h
  obtain ⟨⟨k, v⟩, _, hk, h⟩ := h
  split at h
  · rename_i hc
    rw [pure_eq_ok] at h
    subst h
    exact .field r (lit "scope") _ hr (hc.1 ▸ hk)
  · split at h
    · rename_i hc
      rw [pure_eq_ok] at h
      subst h
      exact .header r hr (hc.1 ▸ hk)
    · simp only [bind_eq_ok, pure_eq_ok] at h
      obtain ⟨x, _, rfl⟩ := h
      exact .field r k _ hr hk

theorem readRecordLine_step {st st' : YamlState} {raw stripped : Str}
    (h : readRecordLine py limit st stripped = .ok st') : ReadStep py limit st raw st' := by
  simp only [readRecordLine, bind_eq_ok] at h
  obtain ⟨st₁, hf, h⟩ := h
  split at h
  · rw [pure_eq_ok] at h
    subst h
    exact .record st₁ _ hf
  · simp only [bind_eq_ok, pure_eq_ok] at h
    obtain ⟨kv, _, v, _, rfl⟩ := h
    exact .record st₁ _ hf

theorem readScopeLine_step {st st' : YamlState} {r : YamlRecord} {scope : YamlValue}
    {raw stripped : Str} (hin : st.inBlock = false) (hr : st.current = some r)
    (h : readScopeLine py st r scope stripped = .ok st') : ReadStep py limit st raw st' := by
  simp only [readScopeLine, bind_eq_ok] at h
  obtain ⟨kv, _, h⟩ := h
  cases scope with
  | scalar v => cases h
  | map fields =>
    simp only [bind_eq_ok, pure_eq_ok] at h
    obtain ⟨_, _, v, _, rfl⟩ := h
    exact .scope r _ hin hr

theorem readLine_step {st st' : YamlState} {raw : Str} (h : readLine py limit st raw = .ok st') :
    ReadStep py limit st raw st' := by
  simp only [readLine] at h
  split at h
  · rename_i hc
    cases h
    exact .text [] hc.1 (by simp)
  split at h
  · rename_i hc
    cases h
    exact .text _ hc.1 fun c hm => mem_of_mem_strip hm
  rename_i hindent
  split at h
  · cases h
    exact .blank
  split at h
  · exact readRecordLine_step h
  cases hc : st.current with
  | none =>
    rw [hc] at h
    cases h
  | some current =>
    rw [hc] at h
    dsimp only at h
    split at h
    · have hsome : (finishBlock st).current.isSome = true := by
        rw [finishBlock_isSome, hc]
        rfl
      obtain ⟨r, hr⟩ := Option.isSome_iff_exists.mp hsome
      rw [hr, Option.getD_some] at h
      exact readFieldLine_step hr h
    · split at h
      · rename_i hsix
        have hin : st.inBlock = false := by
          cases hb : st.inBlock with
          | false => rfl
          | true =>
            exfalso
            exact hindent ⟨hb, hsix.ge⟩
        cases hs : current.get? (lit "scope") with
        | none =>
          rw [hs] at h
          cases h
        | some scope =>
          rw [hs] at h
          exact readScopeLine_step hin hc h
      · cases h

def TextSafe (r : YamlRecord) : Prop :=
  ∃ t, r.get? (lit "lesson_text") = some (.scalar (.str t)) ∧ NewlineOnly t

inductive Pending (ls : List YamlRecord) : YamlState → Prop
  | block (r : YamlRecord) (lines : List Str) (hlines : ∀ b ∈ lines, Free b) :
      Pending ls (inText ls r lines)
  | closed (r : YamlRecord) (lines : List Str) (hr : TextSafe r) :
      Pending ls { lessons := ls, current := some r, inBlock := false, blockLines := lines }

structure Passed (ls : List YamlRecord) (st : YamlState) : Prop where
  lessons : ∃ extra, extra ≠ [] ∧ st.lessons = ls ++ extra
  current : st.current.isSome = true

theorem Pending.finish {ls : List YamlRecord} {st : YamlState} (h : Pending ls st) :
    ∃ r, finishBlock st = { lessons := ls, current := some r } ∧ TextSafe r := by
  cases h with
  | block r lines hlines =>
    exact ⟨_, rfl, _, Dict.get?_set_self _ _ _, newlineOnly_joinNewline hlines⟩
  | closed r lines hr => exact ⟨r, rfl, hr⟩

theorem Pending.finished_eq {ls : List YamlRecord} {st : YamlState} (h : Pending ls st) :
    ∃ r, finished st = ls ++ [r] ∧ TextSafe r := by
  obtain ⟨r, hr, hsafe⟩ := h.finish
  have hlessons : st.lessons = ls := by cases h <;> rfl
  refine ⟨r, ?_, hsafe⟩
  rw [finished, hr, hlessons]
  rfl

theorem Passed.finished_eq {ls : List YamlRecord} {st : YamlState} (h : Passed ls st) :
    ∃ extra, 2 ≤ extra.length ∧ finished st = ls ++ extra := by
  obtain ⟨extra, hne, hlessons⟩ := h.lessons
  have hsome : (finishBlock st).current.isSome = true := (finishBlock_isSome st).trans h.current
  obtain ⟨r, hr⟩ := Option.isSome_iff_exists.mp hsome
  have hpos : 0 < extra.length := List.length_pos_iff.mpr hne
  refine ⟨extra ++ [r], ?_, ?_⟩
  · rw [List.length_append, List.length_singleton]
    omega
  · rw [finished, hlessons, hr]
    simp

theorem TextSafe.set {r : YamlRecord} {k : Str} {v : YamlValue} (h : TextSafe r)
    (hk : k ≠ lit "lesson_text") : TextSafe (r.set k v) := by
  obtain ⟨t, ht, hn⟩ := h
  exact ⟨t, by rw [Dict.get?_set_of_ne _ _ hk.symm, ht], hn⟩

theorem TextSafe.mem_keys {r : YamlRecord} (h : TextSafe r) : lit "lesson_text" ∈ r.keys := by
  obtain ⟨t, ht, _⟩ := h
  exact Dict.mem_keys.mpr ⟨_, ht⟩

theorem Pending.step {ls : List YamlRecord} {st st' : YamlState} {raw : Str} (h : Pending ls st)
    (hraw : Free raw) (hs : ReadStep py limit st raw st') : Pending ls st' ∨ Passed ls st' := by
  obtain ⟨r₀, hblock, hsafe⟩ := h.finish
  cases hs with
  | text other hin ho =>
    cases h with
    | closed r lines hr => cases hin
    | block r lines hlines =>
      refine .inl (.block r (lines ++ [blockLine raw other]) fun b hb => ?_)
      rcases List.mem_append.mp hb with hb | hb
      · exact hlines b hb
      · rw [List.mem_singleton.mp hb]
        exact free_blockLine hraw fun c hc => hraw c (ho c hc)
  | blank => exact .inl h
  | record st₁ r hf =>
    obtain ⟨r₁, hdone, _⟩ := h.finished_eq
    rw [finishLesson_eq_ok hf]
    exact .inr ⟨⟨[r₁], by simp, hdone⟩, rfl⟩
  | field r k v hr hk =>
    rw [hblock] at hr ⊢
    cases hr
    refine .inl (.closed (r₀.set k v) [] (hsafe.set ?_))
    rintro rfl
    exact hk hsafe.mem_keys
  | header r hr hk =>
    rw [hblock] at hr
    cases hr
    exact absurd hsafe.mem_keys hk
  | scope r v hin hr =>
    cases h with
    | block r₁ lines hlines => cases hin
    | closed r₁ lines hr₁ =>
      cases hr
      exact .inl (.closed _ lines (hr₁.set (by decide)))

theorem Passed.step {ls : List YamlRecord} {st st' : YamlState} {raw : Str} (h : Passed ls st)
    (hs : ReadStep py limit st raw st') : Passed ls st' := by
  cases hs with
  | text other hin ho => exact ⟨h.lessons, h.current⟩
  | blank => exact h
  | record st₁ r hf =>
    obtain ⟨extra, hlen, hdone⟩ := h.finished_eq
    rw [finishLesson_eq_ok hf]
    refine ⟨⟨extra, ?_, hdone⟩, rfl⟩
    rintro rfl
    simp at hlen
  | field r k v hr hk => exact ⟨h.lessons, rfl⟩
  | header r hr hk => exact ⟨h.lessons, (finishBlock_isSome st).trans h.current⟩
  | scope r v hin hr => exact ⟨h.lessons, rfl⟩

theorem pending_text {ls : List YamlRecord} {st st' : YamlState} {lines : List Str}
    (h : Pending ls st) (hlines : ∀ ln ∈ lines, Free ln)
    (hrun : accumulate (readLine py limit) st lines = .ok st') :
    Pending ls st' ∨ Passed ls st' := by
  refine accumulate_invariant (P := fun st => Pending ls st ∨ Passed ls st) ?_ (.inl h) hrun
  intro st₁ ln st₂ hln hst hread
  rcases hst with hst | hst
  · exact hst.step (hlines ln hln) (readLine_step hread)
  · exact .inr (hst.step (readLine_step hread))

theorem pending_lesson {st st' : YamlState} {l : Lesson} (hl : Readable py l)
    (hrun : accumulate (readLine py limit) st (physical (lessonLines py l)) = .ok st') :
    Pending (finished st) st' ∨ Passed (finished st) st' := by
  rw [physical_lessonLines hl, List.cons_append, accumulate, read_recordLine_eq] at hrun
  obtain ⟨st₁, hrecord, hrun⟩ := bind_eq_ok.mp hrun
  obtain ⟨st₀, hf, hst₁⟩ := bind_eq_ok.mp hrecord
  have hreading : st₁ = reading (finished st) (startRecord l) := by
    rw [finishLesson_eq_ok hf] at hst₁
    exact (Except.ok.inj hst₁).symm
  rw [hreading, accumulate_append, read_headLines hl] at hrun
  exact pending_text (.block (headRecord py l) [] (by simp)) (fun ln hln => free_physical hln) hrun

theorem read_lessons_sound {L : List Lesson} {st st' : YamlState} (hL : ∀ l ∈ L, Readable py l)
    (hrun : accumulate (readLine py limit) st (physical (L.flatMap (lessonLines py))) = .ok st') :
    ∃ rs, finished st' = finished st ++ rs ∧ L.length ≤ rs.length ∧
      (rs.length = L.length → ∀ r ∈ rs, TextSafe r) := by
  induction L generalizing st with
  | nil =>
    cases hrun
    exact ⟨[], by simp, by simp, by simp⟩
  | cons l L ih =>
    rw [List.flatMap_cons, physical_append, accumulate_append] at hrun
    obtain ⟨st₁, hfirst, hrest⟩ := bind_eq_ok.mp hrun
    obtain ⟨rs, hdone, hlen, hsafe⟩ := ih (fun m hm => hL m (List.mem_cons_of_mem _ hm)) hrest
    rcases pending_lesson (hL l (by simp)) hfirst with hp | hp
    · obtain ⟨r, hr, hrsafe⟩ := hp.finished_eq
      refine ⟨r :: rs, ?_, ?_, ?_⟩
      · rw [hdone, hr]
        simp
      · simp only [List.length_cons]
        omega
      · intro heq
        have htail : rs.length = L.length := by simpa using heq
        exact List.forall_mem_cons.mpr ⟨hrsafe, hsafe htail⟩
    · obtain ⟨extra, hextra, hr⟩ := hp.finished_eq
      refine ⟨extra ++ rs, ?_, ?_, ?_⟩
      · rw [hdone, hr]
        simp
      · rw [List.length_append, List.length_cons]
        omega
      · intro heq
        rw [List.length_append, List.length_cons] at heq
        omega

theorem finishLesson_length {st st' : YamlState} {n : Nat} (hlimit : limit = some n)
    (h : finishLesson limit st = .ok st') (hst : st.lessons.length ≤ n) :
    st'.lessons.length ≤ n := by
  subst hlimit
  unfold finishLesson at h
  cases hc : (finishBlock st).current with
  | none =>
    simp only [hc] at h
    cases h
    exact hst
  | some r =>
    simp only [hc, seq_eq_ok, pure_eq_ok, raiseIf_eq_ok, Option.elim_some, decide_eq_true_eq,
      not_le] at h
    obtain ⟨hlt, rfl⟩ := h
    simp only [List.length_append, List.length_singleton]
    omega

theorem readLine_length {st st' : YamlState} {raw : Str} {n : Nat} (hlimit : limit = some n)
    (h : readLine py limit st raw = .ok st') (hst : st.lessons.length ≤ n) :
    st'.lessons.length ≤ n := by
  cases readLine_step h with
  | record st₁ r hf =>
    have hle := finishLesson_length hlimit hf hst
    exact hle
  | text => exact hst
  | blank => exact hst
  | field => exact hst
  | header => exact hst
  | scope => exact hst

theorem lessonsFromYaml_sound {L : List Lesson} {rs : List YamlRecord}
    (hL : ∀ l ∈ L, Readable py l)
    (h : lessonsFromYaml py (lessonsToYaml py L) limit = .ok rs) (hlen : L.length = rs.length) :
    (∀ n, limit = some n → L.length ≤ n) ∧ ∀ r ∈ rs, TextSafe r := by
  cases L with
  | nil =>
    have hnil : rs = [] := List.length_eq_zero_iff.mp hlen.symm
    simp [hnil]
  | cons l L =>
    rw [lessonsFromYaml_toYaml (by simp)] at h
    obtain ⟨st, hrun, h⟩ := bind_eq_ok.mp h
    obtain ⟨st₁, hfinish, hrs⟩ := bind_eq_ok.mp h
    rw [pure_eq_ok] at hrs
    have hdone : finished st = rs := by
      rw [← hrs, finishLesson_eq_ok hfinish]
    constructor
    · intro n hn
      have hst : st.lessons.length ≤ n :=
        accumulate_invariant (P := fun st => st.lessons.length ≤ n)
          (fun b a c _ hb hc => readLine_length hn hc hb) (by simp) hrun
      rw [hlen, ← hrs]
      exact finishLesson_length hn hfinish hst
    · obtain ⟨rs', hfinished, _, hsafe⟩ := read_lessons_sound hL hrun
      have heq : rs' = rs := by
        rw [← hdone, hfinished]
        rfl
      rw [heq] at hsafe
      exact hsafe hlen.symm

end Soundness

section RoundTrip

theorem readable_of_valid (hpy : FloatTexts py) {l : Lesson}
    (h : validateStoredLesson py l = .ok ()) : Readable py l := by
  have hfields : ∀ k ∈ scopeFields, plainKey k = true := by decide
  simp only [validateStoredLesson, validateLessonContract, validateScopeField, bind_eq_ok,
    exists_unit, raiseIf_eq_ok, checkEach_eq_ok, Bool.not_eq_false, not_or, Bool.not_eq_true,
    Decidable.not_not] at h
  obtain ⟨_, _, hscope, _, _, hfinite, hzero, hone⟩ := h
  exact ⟨unitText_of_valid hpy hfinite hzero hone, fun f hf => hfields f.1 (hscope f hf).1⟩

theorem newlineOnly_of_exports {L : List Lesson} {rs : List YamlRecord}
    (h : List.Forall₂ Exports L rs) (hsafe : ∀ r ∈ rs, TextSafe r) :
    ∀ l ∈ L, NewlineOnly l.lessonText := by
  induction h with
  | nil => simp
  | cons hl _ ih =>
    rw [List.forall_mem_cons] at hsafe ⊢
    obtain ⟨⟨t, ht, hn⟩, hrest⟩ := hsafe
    have heq := Option.some.inj (ht.symm.trans hl.lesson_text)
    simp only [YamlValue.scalar.injEq, YamlScalar.str.injEq] at heq
    exact ⟨heq ▸ hn, ih hrest⟩

theorem lessons_yaml_round_trip_iff (hpy : FloatTexts py) {L : List Lesson}
    (hL : ∀ l ∈ L, validateStoredLesson py l = .ok ()) :
    RoundTrips py limit L ↔ (∀ n, limit = some n → L.length ≤ n) ∧
      ∀ l ∈ L, NewlineOnly l.lessonText ∧ ScalarSafe l := by
  have hreadable : ∀ l ∈ L, Readable py l := fun l hl => readable_of_valid hpy (hL l hl)
  have hread : (∀ n, limit = some n → L.length ≤ n) → (∀ l ∈ L, NewlineOnly l.lessonText) →
      lessonsFromYaml py (lessonsToYaml py L) limit = .ok (L.map (exportedRecord py)) :=
    fun hlen ht => lessonsFromYaml_exports hreadable ht hlen
  have hexports : List.Forall₂ Exports L (L.map (exportedRecord py)) ↔
      ∀ l ∈ L, ScalarSafe l := by
    rw [List.forall₂_map_right_iff, List.forall₂_same]
    exact forall₂_congr fun l hl => exports_exportedRecord (hreadable l hl).confidence
  constructor
  · rintro ⟨rs, hrs, hall⟩
    obtain ⟨hlen, hsafe⟩ := lessonsFromYaml_sound hreadable hrs hall.length_eq
    have ht := newlineOnly_of_exports hall hsafe
    have heq : rs = L.map (exportedRecord py) := Except.ok.inj (hrs.symm.trans (hread hlen ht))
    rw [heq] at hall
    exact ⟨hlen, fun l hl => ⟨ht l hl, hexports.mp hall l hl⟩⟩
  · rintro ⟨hlen, hsafe⟩
    exact ⟨_, hread hlen fun l hl => (hsafe l hl).1, hexports.mpr fun l hl => (hsafe l hl).2⟩

def bitsPython : Python :=
  { asciiPython with
    floatRepr := fun x => if x = Double.one then lit "1.0" else decimal x.bits.toNat ++ lit "."
    parseFloat := fun s =>
      if s = lit "1" ∨ s = lit "1.0" then some Double.one
      else if s = lit "0" then some ⟨0#64⟩
      else (parseDigits s.dropLast).map (fun n => ⟨BitVec.ofNat 64 n⟩) }

theorem numeric_decimal (n : Nat) : (decimal n).all numeric = true := by
  rw [decimal, List.all_map, List.all_eq_true]
  intro c hc
  have hd : 48 ≤ c.toNat ∧ c.toNat ≤ 57 :=
    Char.isDigit_iff_toNat.mp (Nat.isDigit_of_mem_toDigits (by decide) (by decide) hc)
  simp only [Function.comp, cp]
  generalize c.toNat = m at hd
  obtain ⟨hlow, hhigh⟩ := hd
  interval_cases m <;> decide

theorem bitsPython_floatTexts : FloatTexts bitsPython := by
  have hdot : lit "." = [46] := by decide
  refine ⟨?_, ?_, ?_, by decide, by decide⟩
  · intro x _
    simp only [bitsPython]
    split
    · decide
    · simp [hdot]
  · intro x _
    simp only [bitsPython]
    split
    · decide
    · rw [List.all_append, numeric_decimal]
      decide
  · intro x _
    simp only [bitsPython]
    split
    · rename_i hx
      rw [hx]
      decide
    · have hlast : ∀ t : Str, t.getLast? ≠ some 46 → decimal x.bits.toNat ++ [46] ≠ t := by
        rintro t ht rfl
        exact ht List.getLast?_concat
      have hparse : parseDigits (decimal x.bits.toNat) = some x.bits.toNat := by
        simpa [padded] using parseDigits_padded 0 x.bits.toNat
      rw [hdot, if_neg (not_or.mpr ⟨hlast _ (by decide), hlast _ (by decide)⟩),
        if_neg (hlast _ (by decide)), List.dropLast_concat, hparse]
      simp

theorem lessons_yaml_round_trip_sample :
    validateStoredLesson bitsPython sampleLesson = .ok () ∧
      RoundTrips bitsPython (some lessonsYamlMaxRecords) [sampleLesson] := by
  have hvalid : validateStoredLesson bitsPython sampleLesson = .ok () := by decide +kernel
  have htext : sampleLesson.lessonText.all (fun c => !isLineBoundary c) = true := by decide
  refine ⟨hvalid, (lessons_yaml_round_trip_iff bitsPython_floatTexts (by simpa using hvalid)).mpr
    ⟨?_, ?_⟩⟩
  · rintro n hn
    rw [← Option.some.inj hn]
    decide
  intro l hl
  rw [List.mem_singleton] at hl
  subst hl
  refine ⟨fun c hc hb => ?_, by decide, by decide, by decide⟩
  rw [free_of_all htext c hc] at hb
  cases hb

def injectingLesson : Lesson :=
  { sampleLesson with
    lessonText := lit "Acquire locks in order." ++ [0x2028] ++ lit "  - lesson_id: \"lesson_2\"" }

set_option maxRecDepth 20000 in
theorem lessons_yaml_injects_record :
    returns (exec bitsPython sampleEnv (.addLesson injectingLesson)
      (runStore bitsPython (Store.fresh 0 sampleSession) (sampleCalls.take 4))) = true ∧
      ¬RoundTrips bitsPython (some lessonsYamlMaxRecords) [injectingLesson] := by
  refine ⟨by decide +kernel, ?_⟩
  rintro ⟨rs, hrs, hall⟩
  have htwo : (lessonsFromYaml bitsPython (lessonsToYaml bitsPython [injectingLesson])
      (some lessonsYamlMaxRecords)).toOption.map List.length = some 2 := by decide +kernel
  rw [hrs] at htwo
  have hlen := hall.length_eq
  simp only [Except.toOption, Option.map_some, Option.some.injEq] at htwo
  rw [htwo] at hlen
  simp at hlen

end RoundTrip

end TraceBackedMemory
