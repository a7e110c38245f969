import TraceBackedMemory.Store.LessonsYaml

namespace TraceBackedMemory

open Text Raising

variable {py : Python}

section Scalars

local instance lawfulBEqCodePoint : LawfulBEq CodePoint := inferInstance

def numeric (c : CodePoint) : Bool := decide (c ∈ lit "0123456789.e+-")

structure FloatTexts (py : Python) : Prop where
  repr_nonempty : ∀ x : Double, x.isFinite = true → py.floatRepr x ≠ []
  repr_numeric : ∀ x : Double, x.isFinite = true → (py.floatRepr x).all numeric = true
  parse_repr : ∀ x : Double, x.isFinite = true → py.parseFloat (py.floatRepr x) = some x
  parse_zero : py.parseFloat (lit "0") = some ⟨0#64⟩
  parse_one : py.parseFloat (lit "1") = some Double.one

def letterOrUnderscore (c : CodePoint) : Bool := decide (c.val = 95 ∨ (97 ≤ c.val ∧ c.val ≤ 122))

theorem tight_of_all {p : CodePoint → Bool} (hp : ∀ c, p c = true → isSpace c = false) {s : Str}
    (hne : s ≠ []) (hs : s.all p = true) : Tight s := by
  have hall : ∀ c ∈ s, isSpace c = false := fun c hc => hp c (List.all_eq_true.mp hs c hc)
  constructor
  · obtain ⟨c, t, rfl⟩ := List.exists_cons_of_ne_nil hne
    exact ⟨c, rfl, hall c (by simp)⟩
  · refine ⟨s.getLast hne, List.getLast?_eq_some_getLast hne, hall _ (List.getLast_mem hne)⟩

theorem numeric_val {c : CodePoint} (h : numeric c = true) :
    c.val ∈ [43, 45, 46, 48, 49, 50, 51, 52, 53, 54, 55, 56, 57, 101] := by
  have hl : lit "0123456789.e+-" = [48, 49, 50, 51, 52, 53, 54, 55, 56, 57, 46, 101, 43, 45] := by
    decide
  simp only [numeric, hl, decide_eq_true_eq, List.mem_cons, List.not_mem_nil, or_false] at h
  rcases h with rfl | rfl | rfl | rfl | rfl | rfl | rfl | rfl | rfl | rfl | rfl | rfl | rfl | rfl <;>
    decide

theorem numeric_not_space (c : CodePoint) (h : numeric c = true) : isSpace c = false := by
  have hv := numeric_val h
  simp only [List.mem_cons, List.not_mem_nil, or_false] at hv
  simp only [isSpace, decide_eq_false_iff_not, List.mem_cons, List.not_mem_nil, or_false]
  omega

theorem numeric_not_boundary (c : CodePoint) (h : numeric c = true) : isLineBoundary c = false := by
  have hv := numeric_val h
  simp only [List.mem_cons, List.not_mem_nil, or_false] at hv
  simp only [isLineBoundary, decide_eq_false_iff_not, List.mem_cons, List.not_mem_nil, or_false]
  omega

theorem letter_not_space (c : CodePoint) (h : letterOrUnderscore c = true) : isSpace c = false := by
  simp only [letterOrUnderscore, decide_eq_true_eq] at h
  simp only [isSpace, decide_eq_false_iff_not, List.mem_cons, List.not_mem_nil, or_false]
  omega

theorem printable_not_boundary {c : CodePoint} (h : 32 ≤ c.val ∧ c.val ≤ 126) :
    isLineBoundary c = false := by
  simp only [isLineBoundary, decide_eq_false_iff_not, List.mem_cons, List.not_mem_nil, or_false]
  omega

theorem tight_dumpsString (s : Str) : Tight (dumpsString s) := by
  refine ⟨⟨34, rfl, by decide⟩, ⟨34, ?_, by decide⟩⟩
  rw [dumpsString, ← List.cons_append]
  exact List.getLast?_concat

theorem quotes_dumpsString (s : Str) : quotes (dumpsString s) = true := by
  have hlast : (dumpsString s).getLast? = some 34 := by
    rw [dumpsString, ← List.cons_append]
    exact List.getLast?_concat
  have hq : cp '"' = 34 := by decide
  simp only [quotes, hq, hlast, decide_eq_true_eq, and_true]
  rfl

theorem head_ne_of_lit {s t : Str} {c d : CodePoint} (hs : s.head? = some c) (ht : t.head? = some d)
    (hne : c ≠ d) : s ≠ t := by
  rintro rfl
  rw [hs] at ht
  exact hne (Option.some.inj ht)

theorem parseYamlScalar_dumpsString (s : Str) :
    parseYamlScalar py (dumpsString s) = .ok (.str (joinSurrogates s)) := by
  have ht : dumpsString s ≠ lit "true" :=
    head_ne_of_lit (c := 34) (d := 116) rfl (by decide) (by decide)
  have hf : dumpsString s ≠ lit "false" :=
    head_ne_of_lit (c := 34) (d := 102) rfl (by decide) (by decide)
  rw [parseYamlScalar, if_neg ht, if_neg hf, if_pos (quotes_dumpsString s),
    loadsQuoted_dumpsString]
  rfl

theorem parseYamlScalar_yamlBool (b : Bool) : parseYamlScalar py (yamlBool b) = .ok (.bool b) := by
  cases b with
  | true => rfl
  | false =>
    have hne : lit "false" ≠ lit "true" := by decide
    rw [yamlBool, if_neg (by decide), parseYamlScalar, if_neg hne, if_pos rfl]

theorem parseYamlScalar_numeric {s : Str} (hne : s ≠ []) (hs : s.all numeric = true) {x : Double}
    (hx : py.parseFloat s = some x) : parseYamlScalar py s = .ok (.float x) := by
  obtain ⟨c, t, rfl⟩ := List.exists_cons_of_ne_nil hne
  have hv := numeric_val (List.all_eq_true.mp hs c (by simp))
  simp only [List.mem_cons, List.not_mem_nil, or_false] at hv
  have hval : ∀ d : CodePoint, d.val = 34 ∨ d.val = 102 ∨ d.val = 116 → c ≠ d := by
    rintro d hd rfl
    omega
  have ht : c :: t ≠ lit "true" :=
    head_ne_of_lit (d := 116) rfl (by decide) (hval 116 (by decide))
  have hf : c :: t ≠ lit "false" :=
    head_ne_of_lit (d := 102) rfl (by decide) (hval 102 (by decide))
  have hq : quotes (c :: t) = false := by
    have hc : c ≠ cp '"' := hval _ (by decide)
    simp [quotes, hc]
  rw [parseYamlScalar, if_neg ht, if_neg hf, if_neg (by simp [hq]), hx]

end Scalars

section Lines

variable {limit : Option Nat}

def plainKey (k : Str) : Bool := !k.isEmpty && k.all letterOrUnderscore

theorem tight_of_plainKey {k : Str} (h : plainKey k = true) : Tight k := by
  simp only [plainKey, Bool.and_eq_true, Bool.not_eq_true', List.isEmpty_eq_false_iff] at h
  exact tight_of_all letter_not_space h.1 h.2

theorem splitColon_append {k : Str} (h : k.all letterOrUnderscore = true) (v : Str) :
    splitColon (k ++ cp ':' :: v) = some (k, v) := by
  induction k with
  | nil => simp [splitColon]
  | cons c k ih =>
    simp only [List.all_cons, Bool.and_eq_true] at h
    have hc : c ≠ cp ':' := by
      rintro rfl
      exact absurd h.1 (by decide)
    simp only [List.cons_append, splitColon, if_neg hc, ih h.2, Option.map_some]

theorem colonSpace : lit ": " = [cp ':', 32] := by decide

theorem yamlKeyValue_line {k v : Str} (hk : plainKey k = true) (hv : Tight v) :
    yamlKeyValue (k ++ lit ": " ++ v) = .ok (k, v) := by
  have hall : k.all letterOrUnderscore = true := by
    simp only [plainKey, Bool.and_eq_true] at hk
    exact hk.2
  have hsplit : splitColon (k ++ lit ": " ++ v) = some (k, 32 :: v) := by
    rw [colonSpace, List.append_assoc]
    exact splitColon_append hall (32 :: v)
  simp only [yamlKeyValue, hsplit, demand]
  show Except.ok (strip k, strip (List.replicate 1 32 ++ v)) = _
  rw [strip_tight (tight_of_plainKey hk), strip_pad 1 hv]

theorem indentOf_pad (n : Nat) {s : Str} (h : Tight s) : indentOf (List.replicate n 32 ++ s) = n := by
  obtain ⟨c, hc, hs⟩ := h.head
  have hne : c ≠ cp ' ' := by
    rintro rfl
    exact absurd hs (by decide)
  have hspace : cp ' ' = 32 := by decide
  cases s with
  | nil => cases hc
  | cons d s =>
    cases hc
    rw [indentOf, List.takeWhile_append_of_pos (by simp [hspace])]
    simp [hne]

theorem not_record_line {k m : Str} (hk : plainKey k = true) :
    startsWith (k ++ m) (lit "- ") = false := by
  have hd : lit "- " = [45, 32] := by decide
  simp only [plainKey, Bool.and_eq_true, Bool.not_eq_true', List.isEmpty_eq_false_iff] at hk
  obtain ⟨c, t, rfl⟩ := List.exists_cons_of_ne_nil hk.1
  have hc := List.all_eq_true.mp hk.2 c (by simp)
  have hne : (45 : CodePoint) ≠ c := by
    rintro rfl
    exact absurd hc (by decide)
  simp [startsWith, hd, List.isPrefixOf, hne]

def reading (lessons : List YamlRecord) (r : YamlRecord) : YamlState :=
  { lessons := lessons, current := some r }

def inText (lessons : List YamlRecord) (r : YamlRecord) (blockLines : List Str) : YamlState :=
  { lessons := lessons, current := some r, inBlock := true, blockLines := blockLines }

def fieldLine (k v : Str) : Str := lit "    " ++ k ++ lit ": " ++ v

theorem fourSpaces : lit "    " = List.replicate 4 32 := by decide

theorem sixSpaces : lit "      " = List.replicate 6 32 := by decide

theorem read_fieldLine {lessons : List YamlRecord} {r : YamlRecord} {k v : Str}
    (hk : plainKey k = true) (hv : Tight v) :
    readLine py limit (reading lessons r) (fieldLine k v) =
      readFieldLine py (reading lessons r) r (k ++ lit ": " ++ v) := by
  have ht : Tight (k ++ lit ": " ++ v) := (tight_of_plainKey hk).append hv
  have hraw : fieldLine k v = List.replicate 4 32 ++ (k ++ lit ": " ++ v) := by
    simp [fieldLine, fourSpaces]
  have hrec : startsWith (k ++ lit ": " ++ v) (lit "- ") = false := by
    rw [List.append_assoc]
    exact not_record_line hk
  simp only [readLine, hraw, strip_pad 4 ht, indentOf_pad 4 ht, reading, ht.ne_nil, hrec,
    finishBlock, Bool.false_eq_true, false_and, if_false, if_true, Option.getD_some]

structure FieldText (py : Python) (f : Str × Str × YamlScalar) : Prop where
  key : plainKey f.1 = true
  not_scope : f.1 ≠ lit "scope"
  not_text : f.1 ≠ lit "lesson_text"
  tight : Tight f.2.1
  parsed : parseYamlScalar py f.2.1 = .ok f.2.2

theorem read_field {lessons : List YamlRecord} {r : YamlRecord} {f : Str × Str × YamlScalar}
    (h : FieldText py f) (hr : f.1 ∉ r.keys) :
    readLine py limit (reading lessons r) (fieldLine f.1 f.2.1) =
      .ok (reading lessons (r.set f.1 (.scalar f.2.2))) := by
  have hc : r.contains f.1 = false := Dict.contains_eq_false.mpr (Dict.get?_eq_none.mpr hr)
  rw [read_fieldLine h.key h.tight, readFieldLine, yamlKeyValue_line h.key h.tight]
  simp only [bind, Except.bind, hc, raiseIf, Bool.false_eq_true, if_false, h.not_scope, h.not_text,
    false_and, h.parsed]
  rfl

theorem read_fields {lessons : List YamlRecord} {r : YamlRecord}
    {fields : List (Str × Str × YamlScalar)} (h : ∀ f ∈ fields, FieldText py f)
    (hn : (r.keys ++ fields.map Prod.fst).Nodup) :
    accumulate (readLine py limit) (reading lessons r)
        (fields.map (fun f => fieldLine f.1 f.2.1)) =
      .ok (reading lessons (r.update (fields.map (fun f => (f.1, .scalar f.2.2))))) := by
  induction fields generalizing r with
  | nil => rfl
  | cons f fields ih =>
    have hr : f.1 ∉ r.keys := by
      intro hin
      exact (List.nodup_append.mp hn).2.2 _ hin _ (by simp) rfl
    have hn' : ((r.set f.1 (.scalar f.2.2)).keys ++ fields.map Prod.fst).Nodup := by
      rw [Dict.keys_set_of_not_mem _ hr, List.append_assoc]
      exact hn
    rw [List.map_cons, accumulate, read_field (h f (by simp)) hr]
    exact ih (fun g hg => h g (List.mem_cons_of_mem _ hg)) hn'

theorem read_scopeHeader {lessons : List YamlRecord} {r : YamlRecord}
    (hr : lit "scope" ∉ r.keys) :
    readLine py limit (reading lessons r) (lit "    scope:") =
      .ok (reading lessons (r.set (lit "scope") (.map Dict.empty))) := by
  have hraw : strip (lit "    scope:") = lit "scope:" := by decide
  have hindent : indentOf (lit "    scope:") = 4 := by decide
  have hne : lit "scope:" ≠ [] := by decide
  have hrec : startsWith (lit "scope:") (lit "- ") = false := by decide
  have hkv : yamlKeyValue (lit "scope:") = .ok (lit "scope", []) := by decide
  have hc : r.contains (lit "scope") = false :=
    Dict.contains_eq_false.mpr (Dict.get?_eq_none.mpr hr)
  simp only [readLine, hraw, hindent, hne, hrec, reading, finishBlock, Bool.false_eq_true,
    false_and, if_false, if_true, Option.getD_some, readFieldLine, hkv, bind, Except.bind, hc,
    raiseIf, and_self]
  rfl

theorem read_scopeLine {lessons : List YamlRecord} {r : YamlRecord} {fields : Dict Str YamlScalar}
    {f : Str × Str} (hr : r.get? (lit "scope") = some (.map fields)) (hk : plainKey f.1 = true)
    (hf : f.1 ∉ fields.keys) :
    readLine py limit (reading lessons r) (scopeLine f) =
      .ok (reading lessons (r.set (lit "scope")
        (.map (fields.set f.1 (.str (joinSurrogates f.2)))))) := by
  have hv := tight_dumpsString f.2
  have ht : Tight (f.1 ++ lit ": " ++ dumpsString f.2) := (tight_of_plainKey hk).append hv
  have hraw : scopeLine f = List.replicate 6 32 ++ (f.1 ++ lit ": " ++ dumpsString f.2) := by
    simp [scopeLine, sixSpaces, yamlScalar]
  have hrec : startsWith (f.1 ++ lit ": " ++ dumpsString f.2) (lit "- ") = false := by
    rw [List.append_assoc]
    exact not_record_line hk
  have hc : fields.contains f.1 = false := Dict.contains_eq_false.mpr (Dict.get?_eq_none.mpr hf)
  have hsix : (6 : Nat) ≠ 4 := by decide
  simp only [readLine, hraw, strip_pad 6 ht, indentOf_pad 6 ht, reading, ht.ne_nil, hrec,
    Bool.false_eq_true, false_and, if_false, if_true, hsix, hr, readScopeLine,
    yamlKeyValue_line hk hv, bind, Except.bind, hc, raiseIf, parseYamlScalar_dumpsString]
  rfl

theorem read_scopeLines {lessons : List YamlRecord} {r : YamlRecord} {fields : Dict Str YamlScalar}
    {entries : List (Str × Str)} (hk : ∀ f ∈ entries, plainKey f.1 = true)
    (hn : (fields.keys ++ entries.map Prod.fst).Nodup) :
    accumulate (readLine py limit) (reading lessons (r.set (lit "scope") (.map fields)))
        (entries.map scopeLine) =
      .ok (reading lessons (r.set (lit "scope") (.map (fields.update
        (entries.map (fun f => (f.1, .str (joinSurrogates f.2)))))))) := by
  induction entries generalizing fields with
  | nil => rfl
  | cons f entries ih =>
    have hf : f.1 ∉ fields.keys := by
      intro hin
      exact (List.nodup_append.mp hn).2.2 _ hin _ (by simp) rfl
    have hn' : ((fields.set f.1 (.str (joinSurrogates f.2))).keys ++
        entries.map Prod.fst).Nodup := by
      rw [Dict.keys_set_of_not_mem _ hf, List.append_assoc]
      exact hn
    rw [List.map_cons, accumulate,
      read_scopeLine (Dict.get?_set_self _ _ _) (hk f (by simp)) hf, Dict.set_set]
    exact ih (fun g hg => hk g (List.mem_cons_of_mem _ hg)) hn'

theorem read_textHeader {lessons : List YamlRecord} {r : YamlRecord}
    (hr : lit "lesson_text" ∉ r.keys) :
    readLine py limit (reading lessons r) (lit "    lesson_text: |") =
      .ok (inText lessons r []) := by
  have hraw : strip (lit "    lesson_text: |") = lit "lesson_text: |" := by decide
  have hindent : indentOf (lit "    lesson_text: |") = 4 := by decide
  have hne : lit "lesson_text: |" ≠ [] := by decide
  have hrec : startsWith (lit "lesson_text: |") (lit "- ") = false := by decide
  have hkv : yamlKeyValue (lit "lesson_text: |") = .ok (lit "lesson_text", lit "|") := by
    decide
  have hscope : lit "lesson_text" ≠ lit "scope" := by decide
  have hc : r.contains (lit "lesson_text") = false :=
    Dict.contains_eq_false.mpr (Dict.get?_eq_none.mpr hr)
  simp only [readLine, hraw, hindent, hne, hrec, reading, finishBlock, Bool.false_eq_true,
    false_and, if_false, if_true, Option.getD_some, readFieldLine, hkv, bind, Except.bind, hc,
    raiseIf, hscope, or_true, and_self]
  rfl

theorem read_textLine {lessons : List YamlRecord} {r : YamlRecord} {block : List Str}
    (line : Str) : readLine py limit (inText lessons r block) (lessonTextLine line) =
      .ok (inText lessons r (block ++ [line])) := by
  have hstart : startsWith (lessonTextLine line) (lit "      ") = true := by
    simp [startsWith, lessonTextLine]
  have hdrop : (lessonTextLine line).drop 6 = line := by
    rw [lessonTextLine, sixSpaces]
    rfl
  have hindent : 6 ≤ indentOf (lessonTextLine line) := by
    have hspace : cp ' ' = 32 := by decide
    rw [indentOf, lessonTextLine, sixSpaces, List.takeWhile_append_of_pos (by simp [hspace])]
    simp
  have hblock : ∀ o, blockLine (lessonTextLine line) o = line := by
    intro o
    rw [blockLine, if_pos hstart, hdrop]
  simp only [readLine, inText, hblock, hindent, and_true, true_and, if_true]
  split <;> rfl

theorem read_textLines {lessons : List YamlRecord} {r : YamlRecord} {block : List Str}
    (lines : List Str) :
    accumulate (readLine py limit) (inText lessons r block) (lines.map lessonTextLine) =
      .ok (inText lessons r (block ++ lines)) := by
  induction lines generalizing block with
  | nil => simp [accumulate]
  | cons line lines ih =>
    rw [List.map_cons, accumulate, read_textLine]
    rw [show bind (Except.ok (inText lessons r (block ++ [line]))) _ = _ from ih]
    simp

end Lines

section Records

variable {limit : Option Nat}

def unitDouble : Number → Double
  | .float x => x
  | .int n => if n = 0 then ⟨0#64⟩ else Double.one

structure UnitText (py : Python) (c : Number) : Prop where
  nonempty : py.numberText c ≠ []
  characters : (py.numberText c).all numeric = true
  parsed : py.parseFloat (py.numberText c) = some (unitDouble c)
  equal : Number.eq (.float (unitDouble c)) c = true

theorem number_eq_self {x : Double} (h : x.isFinite = true) :
    Number.eq (.float x) (.float x) = true := by
  have hn : x.isNan = false := by
    simp only [Double.isFinite, decide_eq_true_eq] at h
    simp [Double.isNan, h]
  simp [Number.eq, Number.isNan, hn]

theorem int_of_unit {n : Int} (h₀ : Number.lt (.int n) .zero = false)
    (h₁ : Number.lt .one (.int n) = false) : n = 0 ∨ n = 1 := by
  have hzero : Number.scaled .zero = 0 := by decide
  have hone : Number.scaled .one = 2 ^ 1074 := by decide +kernel
  have hint : Number.scaled (.int n) = n * 2 ^ 1074 := rfl
  rw [Number.lt, hzero, hint, decide_eq_false_iff_not, not_lt] at h₀
  rw [Number.lt, hone, hint, decide_eq_false_iff_not, not_lt] at h₁
  have hpos : (0 : Int) < 2 ^ 1074 := by positivity
  clear hone hint
  generalize (2 : Int) ^ 1074 = k at h₀ h₁ hpos
  have hlow : 0 ≤ n := nonneg_of_mul_nonneg_left h₀ hpos
  have hhigh : n ≤ 1 := by
    by_contra hn
    have h2 : 2 * k ≤ n * k := mul_le_mul_of_nonneg_right (by omega) hpos.le
    omega
  omega

theorem unitText_of_valid (hpy : FloatTexts py) {c : Number} (hf : c.isFinite = true)
    (h₀ : Number.lt c .zero = false) (h₁ : Number.lt .one c = false) : UnitText py c := by
  cases c with
  | float x =>
    exact ⟨hpy.repr_nonempty x hf, hpy.repr_numeric x hf, hpy.parse_repr x hf, number_eq_self hf⟩
  | int n =>
    rcases int_of_unit h₀ h₁ with rfl | rfl
    · have ht : py.numberText (.int 0) = lit "0" := by
        show decimalInt 0 = _
        decide
      refine ⟨?_, ?_, ?_, by decide +kernel⟩
      · rw [ht]
        decide
      · rw [ht]
        decide
      · rw [ht]
        exact hpy.parse_zero
    · have ht : py.numberText (.int 1) = lit "1" := by
        show decimalInt 1 = _
        decide
      refine ⟨?_, ?_, ?_, by decide +kernel⟩
      · rw [ht]
        decide
      · rw [ht]
        decide
      · rw [ht]
        exact hpy.parse_one

def headerFields (py : Python) (l : Lesson) : List (Str × Str × YamlScalar) :=
  [(lit "source_case_id", yamlScalar l.sourceCaseId, .str (joinSurrogates l.sourceCaseId)),
    (lit "memory_type", yamlScalar l.memoryType.text, .str l.memoryType.text),
    (lit "status", yamlScalar (lessonStatusText l.status), .str (lessonStatusText l.status)),
    (lit "confidence", py.numberText l.confidence, .float (unitDouble l.confidence)),
    (lit "sensitive", yamlBool l.sensitive, .bool l.sensitive),
    (lit "eval_leaking", yamlBool l.evalLeaking, .bool l.evalLeaking)]

def recordLine (l : Lesson) : Str := lit "  - lesson_id: " ++ yamlScalar l.lessonId

theorem lessonHeaderLines_eq (l : Lesson) :
    lessonHeaderLines py l =
      recordLine l :: (headerFields py l).map (fun f => fieldLine f.1 f.2.1) ++
        [lit "    scope:"] := by
  have h₁ : lit "    source_case_id: " = lit "    " ++ lit "source_case_id" ++ lit ": " := by
    decide
  have h₂ : lit "    memory_type: " = lit "    " ++ lit "memory_type" ++ lit ": " := by
    decide
  have h₃ : lit "    status: " = lit "    " ++ lit "status" ++ lit ": " := by decide
  have h₄ : lit "    confidence: " = lit "    " ++ lit "confidence" ++ lit ": " := by
    decide
  have h₅ : lit "    sensitive: " = lit "    " ++ lit "sensitive" ++ lit ": " := by
    decide
  have h₆ : lit "    eval_leaking: " = lit "    " ++ lit "eval_leaking" ++ lit ": " := by
    decide
  rw [lessonHeaderLines, h₁, h₂, h₃, h₄, h₅, h₆]
  rfl

theorem tight_yamlBool (b : Bool) : Tight (yamlBool b) := by
  cases b with
  | true => exact tight_of_plainKey (by decide : plainKey (lit "true") = true)
  | false => exact tight_of_plainKey (by decide : plainKey (lit "false") = true)

theorem parse_memoryType (m : MemoryType) :
    parseYamlScalar py (yamlScalar m.text) = .ok (.str m.text) := by
  have hpair : joinSurrogates m.text = m.text := by cases m <;> decide
  rw [yamlScalar, parseYamlScalar_dumpsString, hpair]

theorem parse_lessonStatus (st : LessonStatus) :
    parseYamlScalar py (yamlScalar (lessonStatusText st)) = .ok (.str (lessonStatusText st)) := by
  have hpair : joinSurrogates (lessonStatusText st) = lessonStatusText st := by
    cases st <;> decide
  rw [yamlScalar, parseYamlScalar_dumpsString, hpair]

theorem headerFields_text {l : Lesson} (hc : UnitText py l.confidence) :
    ∀ f ∈ headerFields py l, FieldText py f := by
  have hkey : ∀ k ∈ [lit "source_case_id", lit "memory_type", lit "status", lit "confidence",
      lit "sensitive", lit "eval_leaking"], plainKey k = true ∧ k ≠ lit "scope" ∧
        k ≠ lit "lesson_text" := by
    decide
  simp only [headerFields, List.forall_mem_cons, List.not_mem_nil, false_imp_iff, implies_true,
    and_true] at hkey ⊢
  obtain ⟨⟨a₁, b₁, c₁⟩, ⟨a₂, b₂, c₂⟩, ⟨a₃, b₃, c₃⟩, ⟨a₄, b₄, c₄⟩, ⟨a₅, b₅, c₅⟩, a₆, b₆, c₆⟩ := hkey
  exact ⟨⟨a₁, b₁, c₁, tight_dumpsString _, parseYamlScalar_dumpsString _⟩,
    ⟨a₂, b₂, c₂, tight_dumpsString _, parse_memoryType _⟩,
    ⟨a₃, b₃, c₃, tight_dumpsString _, parse_lessonStatus _⟩,
    ⟨a₄, b₄, c₄, tight_of_all numeric_not_space hc.nonempty hc.characters,
      parseYamlScalar_numeric hc.nonempty hc.characters hc.parsed⟩,
    ⟨a₅, b₅, c₅, tight_yamlBool _, parseYamlScalar_yamlBool _⟩,
    ⟨a₆, b₆, c₆, tight_yamlBool _, parseYamlScalar_yamlBool _⟩⟩

def finished (st : YamlState) : List YamlRecord := st.lessons ++ (finishBlock st).current.toList

theorem finishBlock_isSome (st : YamlState) :
    (finishBlock st).current.isSome = st.current.isSome := by
  unfold finishBlock
  cases st.inBlock <;> simp

theorem finishLesson_eq_ok {st st' : YamlState} (h : finishLesson limit st = .ok st') :
    st' = { finishBlock st with lessons := finished st } := by
  unfold finishLesson at h
  cases hc : (finishBlock st).current with
  | none =>
    have hsame : finished st = st.lessons := by simp [finished, hc]
    simp only [hc] at h
    cases h
    rw [hsame]
    rfl
  | some r =>
    simp only [hc, seq_eq_ok, pure_eq_ok] at h
    obtain ⟨_, rfl⟩ := h
    simp [finished, hc]

theorem finishLesson_total {st : YamlState} (h : ∀ n, limit = some n → (finished st).length ≤ n) :
    finishLesson limit st = .ok { finishBlock st with lessons := finished st } := by
  unfold finishLesson
  cases hc : (finishBlock st).current with
  | none =>
    have hsame : finished st = st.lessons := by simp [finished, hc]
    rw [hsame]
    rfl
  | some r =>
    have hlen : (finished st).length = st.lessons.length + 1 := by simp [finished, hc]
    have hlimit : limit.elim false (fun n => decide (n ≤ st.lessons.length)) = false := by
      cases hl : limit with
      | none => rfl
      | some n =>
        have hn := h n hl
        simp only [Option.elim_some, decide_eq_false_iff_not]
        omega
    simp only [hlimit, raiseIf, Bool.false_eq_true, if_false, finished, hc, Option.toList_some]
    rfl

def startRecord (l : Lesson) : YamlRecord :=
  Dict.empty.set (lit "lesson_id") (.scalar (.str (joinSurrogates l.lessonId)))

theorem read_recordLine_eq {st : YamlState} (l : Lesson) :
    readLine py limit st (recordLine l) =
      (finishLesson limit st >>= fun st' => .ok { st' with
        current := some (startRecord l)
        inBlock := false }) := by
  have hk : plainKey (lit "lesson_id") = true := by decide
  have hv := tight_dumpsString l.lessonId
  have hdash : lit "  - lesson_id: " =
      List.replicate 2 32 ++ (lit "- " ++ (lit "lesson_id" ++ lit ": ")) := by
    decide
  have htight : Tight (lit "- " ++ (lit "lesson_id" ++ lit ": ") ++ dumpsString l.lessonId) := by
    have hd : lit "- " ++ (lit "lesson_id" ++ lit ": ") =
        lit "-" ++ (lit " " ++ (lit "lesson_id" ++ lit ": ")) := by decide
    rw [hd]
    refine Tight.append ⟨⟨45, ?_, by decide⟩, ⟨45, ?_, by decide⟩⟩ hv
    · decide
    · decide
  have hraw : recordLine l =
      List.replicate 2 32 ++ (lit "- " ++ (lit "lesson_id" ++ lit ": ") ++
        dumpsString l.lessonId) := by
    rw [recordLine, hdash, yamlScalar, List.append_assoc]
  have hstart : startsWith (lit "- " ++ (lit "lesson_id" ++ lit ": ") ++ dumpsString l.lessonId)
      (lit "- ") = true := by
    rw [List.append_assoc]
    simp [startsWith]
  have hdrop : (lit "- " ++ (lit "lesson_id" ++ lit ": ") ++ dumpsString l.lessonId).drop 2 =
      lit "lesson_id" ++ lit ": " ++ dumpsString l.lessonId := by
    have hlen : (lit "- ").length = 2 := by decide
    rw [List.append_assoc, ← hlen, List.drop_left]
  have hitem : lit "lesson_id" ++ lit ": " ++ dumpsString l.lessonId ≠ [] := by
    simp [dumpsString]
  have hsix : ¬(6 : Nat) ≤ 2 := by decide
  simp only [readLine, hraw, strip_pad 2 htight, indentOf_pad 2 htight, htight.ne_nil, hsix,
    and_false, if_false, hstart, if_true, readRecordLine, hdrop, hitem, yamlKeyValue_line hk hv]
  refine congrArg (fun k => finishLesson limit st >>= k) (funext fun st' => ?_)
  show (parseYamlScalar py (dumpsString l.lessonId) >>= _) = _
  rw [parseYamlScalar_dumpsString]
  rfl

theorem read_recordLine {st : YamlState} (l : Lesson)
    (h : ∀ n, limit = some n → (finished st).length ≤ n) :
    readLine py limit st (recordLine l) = .ok (reading (finished st) (startRecord l)) := by
  rw [read_recordLine_eq, finishLesson_total h]
  rfl

def headRecord (py : Python) (l : Lesson) : YamlRecord :=
  ((startRecord l).update ((headerFields py l).map (fun f => (f.1, .scalar f.2.2)))).set
    (lit "scope") (.map (Dict.ofList
      (l.scope.entries.map (fun f => (f.1, .str (joinSurrogates f.2))))))

structure Readable (py : Python) (l : Lesson) : Prop where
  confidence : UnitText py l.confidence
  scope_keys : ∀ f ∈ l.scope.entries, plainKey f.1 = true

theorem headerKeys_nodup : ([lit "lesson_id", lit "source_case_id", lit "memory_type",
    lit "status", lit "confidence", lit "sensitive", lit "eval_leaking"] : List Str).Nodup := by
  decide

theorem keys_startRecord (l : Lesson) : (startRecord l).keys = [lit "lesson_id"] := rfl

theorem keys_header (l : Lesson) :
    ((startRecord l).update ((headerFields py l).map (fun f => (f.1, .scalar f.2.2)))).keys =
      [lit "lesson_id", lit "source_case_id", lit "memory_type", lit "status",
        lit "confidence", lit "sensitive", lit "eval_leaking"] := by
  rw [Dict.keys, Dict.entries_update_of_nodup, List.map_append]
  · rfl
  · rw [keys_startRecord]
    exact headerKeys_nodup

def headLines (py : Python) (l : Lesson) : List Str :=
  (headerFields py l).map (fun f => fieldLine f.1 f.2.1) ++ [lit "    scope:"] ++
    l.scope.entries.map scopeLine ++ [lit "    lesson_text: |"]

theorem lessonLines_eq (l : Lesson) :
    lessonLines py l = recordLine l :: headLines py l ++
      (splitNewline l.lessonText).map lessonTextLine := by
  rw [lessonLines, lessonHeaderLines_eq]
  simp [headLines]

theorem read_headLines {lessons : List YamlRecord} {l : Lesson} (hl : Readable py l) :
    accumulate (readLine py limit) (reading lessons (startRecord l)) (headLines py l) =
      .ok (inText lessons (headRecord py l) []) := by
  have hkeys : ((startRecord l).keys ++ (headerFields py l).map Prod.fst).Nodup := by
    rw [keys_startRecord]
    exact headerKeys_nodup
  have hfields : accumulate (readLine py limit) (reading lessons (startRecord l))
      ((headerFields py l).map (fun f => fieldLine f.1 f.2.1)) = _ :=
    read_fields (headerFields_text hl.confidence) hkeys
  have hscope : lit "scope" ∉ ((startRecord l).update
      ((headerFields py l).map (fun f => (f.1, .scalar f.2.2)))).keys := by
    rw [keys_header]
    decide
  have hentries : accumulate (readLine py limit) (reading lessons (((startRecord l).update
      ((headerFields py l).map (fun f => (f.1, .scalar f.2.2)))).set (lit "scope") (.map Dict.empty)))
      (l.scope.entries.map scopeLine) = _ :=
    read_scopeLines hl.scope_keys l.scope.nodup
  have htext : lit "lesson_text" ∉ (headRecord py l).keys := by
    rw [headRecord, Dict.keys_set_of_not_mem _ hscope, keys_header]
    decide
  have hheader : readLine py limit (reading lessons (headRecord py l)) (lit "    lesson_text: |") =
      .ok (inText lessons (headRecord py l) []) := read_textHeader htext
  simp only [headRecord, Dict.ofList] at hheader ⊢
  rw [headLines, accumulate_append, accumulate_append, accumulate_append, hfields]
  simp only [bind, Except.bind, accumulate, read_scopeHeader hscope, hentries, hheader]

end Records

end TraceBackedMemory
