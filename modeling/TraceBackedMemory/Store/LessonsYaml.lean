import TraceBackedMemory.Store.Lifecycle

namespace TraceBackedMemory

open Text Raising

def lessonsYamlMaxRecords : Nat := 10000

inductive YamlScalar where
  | bool (b : Bool)
  | float (x : Double)
  | str (s : Str)
  deriving DecidableEq

inductive YamlValue where
  | scalar (v : YamlScalar)
  | map (fields : Dict Str YamlScalar)
  deriving DecidableEq

abbrev YamlRecord := Dict Str YamlValue

section Writer

def yamlScalar (value : Str) : Str := dumpsString value

def yamlBool (value : Bool) : Str := if value then lit "true" else lit "false"

def lessonStatusText : LessonStatus → Str
  | .active => lit "active"
  | .obsolete => lit "obsolete"

def lessonHeaderLines (py : Python) (l : Lesson) : List Str :=
  [lit "  - lesson_id: " ++ yamlScalar l.lessonId,
    lit "    source_case_id: " ++ yamlScalar l.sourceCaseId,
    lit "    memory_type: " ++ yamlScalar l.memoryType.text,
    lit "    status: " ++ yamlScalar (lessonStatusText l.status),
    lit "    confidence: " ++ py.numberText l.confidence,
    lit "    sensitive: " ++ yamlBool l.sensitive,
    lit "    eval_leaking: " ++ yamlBool l.evalLeaking,
    lit "    scope:"]

def scopeLine (f : Str × Str) : Str := lit "      " ++ f.1 ++ lit ": " ++ yamlScalar f.2

def lessonTextLine (textLine : Str) : Str := lit "      " ++ textLine

def lessonLines (py : Python) (l : Lesson) : List Str :=
  lessonHeaderLines py l ++ l.scope.entries.map scopeLine ++ [lit "    lesson_text: |"] ++
    (splitNewline l.lessonText).map lessonTextLine

def lessonsToYaml (py : Python) (lessons : List Lesson) : Str :=
  if lessons.isEmpty then lit "lessons: []" ++ [newline]
  else joinNewline (lit "lessons:" :: lessons.flatMap (lessonLines py)) ++ [newline]

end Writer

section Reader

structure YamlState where
  lessons : List YamlRecord := []
  current : Option YamlRecord := none
  inBlock : Bool := false
  blockLines : List Str := []

def startsWith (s affix : Str) : Bool := affix.isPrefixOf s

def splitColon : Str → Option (Str × Str)
  | [] => none
  | c :: s =>
    if c = cp ':' then some ([], s)
    else (splitColon s).map (fun p => (c :: p.1, p.2))

def yamlKeyValue (text : Str) : Except Exn (Str × Str) := do
  let p ← demand (splitColon text) (.valueError (lit "expected YAML key/value line: " ++ text))
  return (strip p.1, strip p.2)

def quotes (value : Str) : Bool :=
  decide (value.head? = some (cp '"') ∧ value.getLast? = some (cp '"'))

def parseYamlScalar (py : Python) (value : Str) : Except Exn YamlScalar :=
  if value = lit "true" then .ok (.bool true)
  else if value = lit "false" then .ok (.bool false)
  else if quotes value then YamlScalar.str <$> demand (loadsQuoted value) .jsonDecodeError
  else
    match py.parseFloat value with
    | some x => .ok (.float x)
    | none => .ok (.str value)

def indentOf (raw : Str) : Nat := (raw.takeWhile (fun c => decide (c = cp ' '))).length

def blockLine (raw otherwise : Str) : Str :=
  if startsWith raw (lit "      ") then raw.drop 6 else otherwise

def finishBlock (st : YamlState) : YamlState :=
  { st with
    current := if st.inBlock then
        st.current.map (fun r => r.set (lit "lesson_text")
          (.scalar (.str (joinNewline st.blockLines))))
      else st.current
    inBlock := false
    blockLines := [] }

def finishLesson (limit : Option Nat) (st : YamlState) : Except Exn YamlState :=
  match (finishBlock st).current with
  | none => .ok (finishBlock st)
  | some r => do
    raiseIf (limit.elim false (fun n => decide (n ≤ st.lessons.length)) = true)
      (.valueError (lit "lessons YAML contains more than " ++ decimal (limit.getD 0) ++
        lit " records"))
    return { finishBlock st with lessons := st.lessons ++ [r] }

def readRecordLine (py : Python) (limit : Option Nat) (st : YamlState) (stripped : Str) :
    Except Exn YamlState := do
  let st ← finishLesson limit st
  let item := stripped.drop 2
  if item = [] then return { st with current := some Dict.empty, inBlock := false }
  else
    let kv ← yamlKeyValue item
    let v ← parseYamlScalar py kv.2
    return { st with current := some (Dict.empty.set kv.1 (.scalar v)), inBlock := false }

def readFieldLine (py : Python) (st : YamlState) (current : YamlRecord) (stripped : Str) :
    Except Exn YamlState := do
  let kv ← yamlKeyValue stripped
  raiseIf (current.contains kv.1 = true)
    (.valueError (lit "duplicate lesson field: " ++ kv.1))
  if kv.1 = lit "scope" ∧ kv.2 = [] then
    return { st with current := some (current.set (lit "scope") (.map Dict.empty)) }
  else if kv.1 = lit "lesson_text" ∧ (kv.2 = lit ">" ∨ kv.2 = lit "|") then
    return { st with inBlock := true, blockLines := [] }
  else
    let v ← parseYamlScalar py kv.2
    return { st with current := some (current.set kv.1 (.scalar v)) }

def readScopeLine (py : Python) (st : YamlState) (current : YamlRecord) (scope : YamlValue)
    (stripped : Str) : Except Exn YamlState := do
  let kv ← yamlKeyValue stripped
  match scope with
  | .scalar _ => .error (.typeError (lit "lesson scope must be a mapping"))
  | .map fields =>
    raiseIf (fields.contains kv.1 = true)
      (.valueError (lit "duplicate lesson scope field: " ++ kv.1))
    let v ← parseYamlScalar py kv.2
    return { st with current := some (current.set (lit "scope") (.map (fields.set kv.1 v))) }

def unsupportedLine (raw : Str) : Exn :=
  .valueError (lit "unsupported lessons YAML line: " ++ raw)

def readLine (py : Python) (limit : Option Nat) (st : YamlState) (raw : Str) :
    Except Exn YamlState :=
  let stripped := strip raw
  let indent := indentOf raw
  if st.inBlock ∧ stripped = [] then
    .ok { st with blockLines := st.blockLines ++ [blockLine raw []] }
  else if st.inBlock ∧ 6 ≤ indent then
    .ok { st with blockLines := st.blockLines ++ [blockLine raw stripped] }
  else if stripped = [] then .ok st
  else if startsWith stripped (lit "- ") then readRecordLine py limit st stripped
  else
    match st.current with
    | none => .error (valueError "lesson record must start with '-'")
    | some current =>
      if indent = 4 then
        readFieldLine py (finishBlock st) ((finishBlock st).current.getD current) stripped
      else if indent = 6 then
        match current.get? (lit "scope") with
        | some scope => readScopeLine py st current scope stripped
        | none => .error (unsupportedLine raw)
      else .error (unsupportedLine raw)

def lessonsFromYaml (py : Python) (text : Str) (maxLessons : Option Nat) :
    Except Exn (List YamlRecord) :=
  match (splitlines text).dropWhile (fun l => isBlank l) with
  | [] => .error (valueError "lessons YAML must not be empty")
  | first :: lines =>
    if first = lit "lessons: []" then .ok []
    else if first ≠ lit "lessons:" then .error (valueError "lessons YAML must start with 'lessons:'")
    else do
      let st ← accumulate (readLine py maxLessons) {} lines
      let st ← finishLesson maxLessons st
      return st.lessons

end Reader

section Records

def lessonParameters : List Str :=
  [lit "lesson_id", lit "source_case_id", lit "lesson_text", lit "memory_type", lit "scope",
    lit "confidence", lit "sensitive", lit "eval_leaking", lit "status", lit "created_at"]

def lessonRequiredParameters : List Str := lessonParameters.take 5

def parameterList (names : List Str) : Str :=
  match names with
  | [] => []
  | [a] => quoted a
  | [a, b] => quoted a ++ lit " and " ++ quoted b
  | names => joinWith (lit ", ") (names.dropLast.map quoted) ++ lit ", and " ++
      quoted (names.getLast?.getD [])

def invalidLessonRecord (detail : Str) : Exn :=
  .valueError (lit "invalid lesson record: Lesson.__init__() " ++ detail)

def checkLessonParameters (r : YamlRecord) : Except Exn Unit := do
  match r.keys.find? (fun k => decide (k ∉ lessonParameters)) with
  | some k => .error (invalidLessonRecord (lit "got an unexpected keyword argument " ++ quoted k))
  | none =>
    let absent := lessonRequiredParameters.filter (fun k => decide (k ∉ r.keys))
    raiseIf (absent ≠ [])
      (invalidLessonRecord (lit "missing " ++ decimal absent.length ++
        lit " required positional argument" ++ (if absent.length = 1 then [] else lit "s") ++
        lit ": " ++ parameterList absent))

def textValue? : Option YamlValue → Option Str
  | some (.scalar (.str s)) => some s
  | _ => none

def boolValue? : Option YamlValue → Option Bool
  | none => some false
  | some (.scalar (.bool b)) => some b
  | _ => none

def numberValue? : Option YamlValue → Option Number
  | none => some Number.one
  | some (.scalar (.float x)) => some (.float x)
  | _ => none

def memoryTypeOfText (s : Str) : Option MemoryType :=
  if s = lit "procedural" then some .procedural
  else if s = lit "semantic" then some .semantic
  else if s = lit "episodic" then some .episodic
  else if s = lit "policy" then some .policy
  else none

def lessonStatusOfText (s : Str) : Option LessonStatus :=
  if s = lit "active" then some .active
  else if s = lit "obsolete" then some .obsolete
  else none

def statusValue? : Option YamlValue → Option LessonStatus
  | none => some .active
  | v => (textValue? v).bind lessonStatusOfText

def createdAtValue? : Option YamlValue → Option (Option Str)
  | none => some none
  | v => (textValue? v).map some

def scopeFieldText (py : Python) (f : Str × YamlScalar) : Except Exn (Str × Str) :=
  match f.2 with
  | .str s => .ok (f.1, s)
  | _ => .error (.valueError (lit "lesson scope field " ++ py.repr f.1 ++
      lit " must be a non-empty string"))

def scopeOfValue (py : Python) (v : Option YamlValue) : Except Exn Scope :=
  match v with
  | some (.map fields) => Dict.ofList <$> collect (scopeFieldText py) fields.entries
  | _ => .error (valueError "lessons require non-empty scope")

def lessonOfRecord (py : Python) (r : YamlRecord) : Except Exn Lesson := do
  checkLessonParameters r
  let lessonId ← demand (textValue? (r.get? (lit "lesson_id")))
    (valueError "lesson records require lesson_id")
  let sourceCaseId ← demand (textValue? (r.get? (lit "source_case_id")))
    (valueError "lesson records require source_case_id")
  let lessonText ← demand (textValue? (r.get? (lit "lesson_text")))
    (valueError "lesson records require lesson_text")
  let memoryType ← demand ((textValue? (r.get? (lit "memory_type"))).bind memoryTypeOfText)
    (valueError "lesson memory_type must be one of: episodic, policy, procedural, semantic")
  let status ← demand (statusValue? (r.get? (lit "status")))
    (valueError "lesson status must be one of: active, obsolete")
  let sensitive ← demand (boolValue? (r.get? (lit "sensitive")))
    (valueError "sensitive must be a boolean")
  let evalLeaking ← demand (boolValue? (r.get? (lit "eval_leaking")))
    (valueError "eval_leaking must be a boolean")
  let createdAt ← demand (createdAtValue? (r.get? (lit "created_at")))
    (valueError "lesson created_at must be None or a timezone-aware RFC 3339 date-time string")
  let scope ← scopeOfValue py (r.get? (lit "scope"))
  let confidence ← demand (numberValue? (r.get? (lit "confidence")))
    (valueError "lesson confidence must be a number between 0 and 1")
  return ⟨lessonId, sourceCaseId, lessonText, memoryType, scope, confidence, sensitive,
    evalLeaking, status, createdAt⟩

end Records

end TraceBackedMemory
