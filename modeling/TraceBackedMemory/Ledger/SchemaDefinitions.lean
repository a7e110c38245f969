import TraceBackedMemory.Ledger.PayloadSchema
import TraceBackedMemory.Ledger.Payloads

namespace TraceBackedMemory

open Text Raising Json

section Definitions

-- What the regular expression engine makes of a pattern: none when it does not compile, else the
-- texts that match as a whole.
structure PatternEngine where
  compile : Str → Option (Str → Bool)
  floatText : Double → Str

def schemaInvalid (message : String) : GateError :=
  ⟨.contract, lit "TBM_EVENT_REGISTRY_SCHEMA_INVALID", lit message⟩

def nonCanonicalRegistryJson : GateError :=
  ⟨.contract, lit "TBM_EVENT_REGISTRY_NON_CANONICAL_JSON",
    lit "event registry value is not canonical JSON"⟩

def schemaAllowedKeys : List Str :=
  [lit "$id", lit "$schema", lit "additionalProperties", lit "const", lit "enum", lit "items",
    lit "maxItems", lit "maxLength", lit "maximum", lit "minItems", lit "minLength", lit "minimum",
    lit "oneOf", lit "pattern", lit "properties", lit "required", lit "title", lit "type",
    lit "uniqueItems"]

inductive SchemaTypeName where
  | object
  | array
  | string
  | integer
  | number
  | boolean
  | null
  deriving DecidableEq

def schemaTypes : List (Str × SchemaTypeName) :=
  [(lit "object", .object), (lit "array", .array), (lit "string", .string),
    (lit "integer", .integer), (lit "number", .number), (lit "boolean", .boolean),
    (lit "null", .null)]

abbrev SchemaDocument := List (Str × Json)

variable (doc : SchemaDocument)

def SchemaDocument.get (name : String) : Option Json := field? (lit name) doc

def defineTypeName : Except GateError (Option SchemaTypeName) :=
  match doc.get "type" with
  | none => .ok none
  | some (.str name) => do
    let type ← demand ((schemaTypes.find? (fun t => decide (t.1 = name))).map Prod.snd)
      (schemaInvalid "event payload schema type is not supported")
    return some type
  | some _ => .error (schemaInvalid "event payload schema type is not supported")

def checkMetadata (name : String) (maximum : Nat) : Except GateError Unit :=
  match doc.get name with
  | none => .ok ()
  | some (.str text) =>
    raiseIf (text = [] ∨ maximum < text.length)
      (schemaInvalid "event payload schema metadata is invalid")
  | some _ => .error (schemaInvalid "event payload schema metadata is invalid")

def checkKeywords (names : List String) (allowed : Bool) (message : String) : Except GateError Unit :=
  raiseIf ((∃ name ∈ names, (doc.get name).isSome = true) ∧ allowed = false) (schemaInvalid message)

def definePattern (engine : PatternEngine) (type : Option SchemaTypeName) :
    Except GateError (Option (Str → Bool)) :=
  if type = some .string then
    match doc.get "pattern" with
    | none => .ok none
    | some (.str text) => do
      raiseIf (512 < text.length) (schemaInvalid "event payload schema pattern is invalid")
      let whole ← demand (engine.compile text)
        (schemaInvalid "event payload schema pattern is invalid")
      return some whole
    | some _ => .error (schemaInvalid "event payload schema pattern is invalid")
  else .ok none

def encodableItem (engine : PatternEngine) (v : Json) : Bool :=
  (canonicalBytes engine.floatText v).isSome

def defineEnum (engine : PatternEngine) : Except GateError (Option (List Json)) :=
  match doc.get "enum" with
  | none => .ok none
  | some (.arr values) => do
    raiseIf (values = [] ∨ 256 < values.length)
      (schemaInvalid "event payload schema enum is invalid")
    raiseIf (∃ v ∈ values, encodableItem engine v = false) nonCanonicalRegistryJson
    raiseIf (¬(values.map sortKeys).Nodup) (schemaInvalid "event payload schema enum must be unique")
    return some values
  | some _ => .error (schemaInvalid "event payload schema enum is invalid")

def defineRequired (properties : List (Str × Json)) (required : List Json) :
    Except GateError (List Str) := do
  let names ← demand (required.mapM (fun v => match v with
      | .str name => some name
      | _ => none)) (schemaInvalid "object schema required fields are invalid")
  raiseIf (¬names.Nodup ∨ ∃ name ∈ names, name ∉ properties.map Prod.fst)
    (schemaInvalid "object schema required fields are invalid")
  return names

def defineProperty (engine : PatternEngine) (define : SchemaDocument → Except GateError Schema)
    (property : Str × Json) : Except GateError (Str × Schema) := do
  raiseIf (property.1 = [] ∨ 256 < property.1.length)
    (schemaInvalid "object schema properties are invalid")
  match property.2 with
  | .obj child => do
    match validateEventPayload engine.floatText (.obj [(property.1, .null)]) with
    | .ok _ => .ok ()
    | .error _ =>
      .error (schemaInvalid "object schema property violates canonical payload policy")
    let schema ← define child
    return (property.1, schema)
  | _ => .error (schemaInvalid "object schema properties are invalid")

def defineObject (engine : PatternEngine) (define : SchemaDocument → Except GateError Schema) :
    Except GateError SchemaType := do
  raiseIf (doc.get "additionalProperties" ≠ some (.bool false))
    (schemaInvalid "object schemas must reject additional properties")
  match doc.get "properties", doc.get "required" with
  | some (.obj properties), some (.arr required) => do
    raiseIf (512 < properties.length ∨ 512 < required.length)
      (schemaInvalid "object schemas require properties and required")
    let names ← defineRequired properties required
    let children ← collect (defineProperty engine define) properties
    return .object names children
  | _, _ => .error (schemaInvalid "object schemas require properties and required")

def defineCardinality (name : String) (limit : Nat) (message : String) :
    Except GateError (Option Nat) :=
  match doc.get name with
  | none => .ok none
  | some (.num (.int n)) => do
    raiseIf (n < 0 ∨ (limit : Int) < n) (schemaInvalid message)
    return some n.toNat
  | some _ => .error (schemaInvalid message)

def defineRange (low high : String) (limit : Nat) (bound order : String) :
    Except GateError (Option Nat × Option Nat) := do
  let minimum ← defineCardinality doc low limit bound
  let maximum ← defineCardinality doc high limit bound
  raiseIf (∃ m ∈ minimum, ∃ n ∈ maximum, n < m) (schemaInvalid order)
  return (minimum, maximum)

def defineUnique : Except GateError Bool :=
  match doc.get "uniqueItems" with
  | none => .ok false
  | some (.bool b) => .ok b
  | some _ => .error (schemaInvalid "uniqueItems must be a boolean")

def defineArray (define : SchemaDocument → Except GateError Schema) : Except GateError SchemaType :=
  match doc.get "items" with
  | some (.obj child) => do
    let items ← define child
    let range ← defineRange doc "minItems" "maxItems" 8192 "array cardinality bound is invalid"
      "array minimum exceeds maximum"
    let unique ← defineUnique doc
    return .array items range.1 range.2 unique
  | _ => .error (schemaInvalid "array schemas require one item schema")

def defineString (pattern : Option (Str → Bool)) : Except GateError SchemaType := do
  let range ← defineRange doc "minLength" "maxLength" 1048576 "string length bound is invalid"
    "string minimum exceeds maximum"
  return .string range.1 range.2 pattern

def defineBound (name : String) : Except GateError (Option Number) :=
  match doc.get name with
  | none => .ok none
  | some (.num n) => do
    raiseIf (exceedsDouble n = true) intTooLarge
    raiseIf (n.isFinite = false) (schemaInvalid "numeric bound is invalid")
    return some n
  | some _ => .error (schemaInvalid "numeric bound is invalid")

def defineBounds : Except GateError (Option Number × Option Number) := do
  let minimum ← defineBound doc "minimum"
  let maximum ← defineBound doc "maximum"
  raiseIf (∃ m ∈ minimum, ∃ n ∈ maximum, n.lt m = true) (schemaInvalid "schema minimum exceeds maximum")
  return (minimum, maximum)

def defineType (engine : PatternEngine) (define : SchemaDocument → Except GateError Schema)
    (pattern : Option (Str → Bool)) : Option SchemaTypeName → Except GateError SchemaType
  | none => .ok .unspecified
  | some .object => defineObject doc engine define
  | some .array => defineArray doc define
  | some .string => defineString doc pattern
  | some .integer => do
    let bounds ← defineBounds doc
    return .integer bounds.1 bounds.2
  | some .number => do
    let bounds ← defineBounds doc
    return .number bounds.1 bounds.2
  | some .boolean => .ok .boolean
  | some .null => .ok .null

def defineChoices (define : SchemaDocument → Except GateError Schema) :
    Except GateError (List Schema) :=
  match doc.get "oneOf" with
  | none => .ok []
  | some (.arr choices) => do
    raiseIf (choices = [] ∨ 32 < choices.length)
      (schemaInvalid "oneOf must be a bounded non-empty array")
    collect (fun choice => match choice with
      | .obj child => define child
      | _ => .error (schemaInvalid "oneOf entries must be schemas")) choices
  | some _ => .error (schemaInvalid "oneOf must be a bounded non-empty array")

def checkKeywordTypes (type : Option SchemaTypeName) : Except GateError Unit := do
  checkKeywords doc ["additionalProperties", "properties", "required"]
    (decide (type = some .object)) "object keywords require object type"
  checkKeywords doc ["items", "minItems", "maxItems", "uniqueItems"]
    (decide (type = some .array)) "array keywords require array type"
  checkKeywords doc ["minLength", "maxLength", "pattern"]
    (decide (type = some .string)) "string keywords require string type"
  checkKeywords doc ["minimum", "maximum"]
    (decide (type = some .integer ∨ type = some .number))
    "numeric keywords require integer or number type"

-- The number counts the levels left: the root is at depth zero and twenty-four is the deepest.
def validateSchemaDefinition (engine : PatternEngine) : Nat → SchemaDocument → Except GateError Schema
  | 0, _ => .error (schemaInvalid "event payload schema exceeds maximum depth")
  | levels + 1, doc => do
    raiseIf (∃ f ∈ doc, f.1 ∉ schemaAllowedKeys)
      (schemaInvalid "event payload schema contains unsupported keywords")
    let type ← defineTypeName doc
    checkMetadata doc "$id" 2048
    checkMetadata doc "$schema" 2048
    checkMetadata doc "title" 256
    checkKeywordTypes doc type
    let pattern ← definePattern doc engine type
    let enum ← defineEnum doc engine
    let shape ← defineType doc engine (validateSchemaDefinition engine levels) pattern type
    let oneOf ← defineChoices doc (validateSchemaDefinition engine levels)
    return .mk oneOf (doc.get "const") enum shape

def schemaLevels : Nat := 25

end Definitions

end TraceBackedMemory
