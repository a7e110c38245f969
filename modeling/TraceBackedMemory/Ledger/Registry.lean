import TraceBackedMemory.Ledger.SchemaDefinitions
import TraceBackedMemory.Projection.Checkpoint
import TraceBackedMemory.Foundation.Dict

namespace TraceBackedMemory

open Text Raising Json OrderBy

namespace Registry

section Payloads

def registryCopy (label code : String) : CopyPolicy GateError where
  maxDepth := 24
  maxNodes := 8192
  checksText := false
  depthExceeded := ⟨.contract, lit code, lit label ++ lit " exceeds maximum depth"⟩
  nodesExceeded := ⟨.contract, lit code, lit label ++ lit " exceeds maximum node count"⟩
  badKey := ⟨.contract, lit code, lit label ++ lit " keys must be bounded strings"⟩
  badKeyText := ⟨.contract, lit code, lit label ++ lit " keys must be bounded strings"⟩
  badText := ⟨.contract, lit code, lit label ++ lit " contains a non-JSON value"⟩
  badNumber := ⟨.contract, lit code, lit label ++ lit " contains a non-JSON value"⟩

def copyPayload (engine : PatternEngine) (payload : Json) : Except GateError Unit := do
  match payload with
  | .obj _ => .ok ()
  | _ => .error (payloadInvalid "typed event payload must be an object")
  let _ ← (registryCopy "payload" "TBM_EVENT_REGISTRY_PAYLOAD_INVALID").copy 0 0 payload
  match validateEventPayload engine.floatText payload with
  | .ok _ => .ok ()
  | .error _ => .error (payloadInvalid "typed payload violates canonical event payload policy")

end Payloads

section Records

def registryError (code message : String) : GateError := ⟨.contract, lit code, lit message⟩

def registrationInvalid (message : String) : GateError :=
  registryError "TBM_EVENT_REGISTRY_REGISTRATION_INVALID" message

def upcasterInvalid (message : String) : GateError :=
  registryError "TBM_EVENT_REGISTRY_UPCASTER_INVALID" message

def limitExceeded (message : String) : GateError :=
  registryError "TBM_EVENT_REGISTRY_LIMIT_EXCEEDED" message

def upcastUnsupported (message : String) : GateError :=
  registryError "TBM_EVENT_REGISTRY_UPCAST_UNSUPPORTED" message

def typedViewInvalid (message : String) : GateError :=
  registryError "TBM_EVENT_REGISTRY_TYPED_VIEW_INVALID" message

def maxVersion : Nat := 2147483647

def checkEventType (value : Str) : Except GateError Unit :=
  raiseIf (Projection.isEventType value = false) (registrationInvalid "event_type is not canonical")

def checkVersion (value : Nat) (name : String) : Except GateError Unit :=
  raiseIf (¬(1 ≤ value ∧ value ≤ maxVersion))
    ⟨.contract, lit "TBM_EVENT_REGISTRY_REGISTRATION_INVALID",
      lit name ++ lit " must be a bounded positive integer"⟩

def checkIdentifier (value : Str) (name : String) : Except GateError Unit :=
  raiseIf (isBoundedIdentifier value = false)
    ⟨.contract, lit "TBM_EVENT_REGISTRY_REGISTRATION_INVALID",
      lit name ++ lit " is not a bounded identifier"⟩

def schemaNameStart (c : CodePoint) : Bool := Projection.eventTypeStart c

def schemaNameRest (c : CodePoint) : Bool :=
  schemaNameStart c || decide (c = cp '_' ∨ c = cp '.' ∨ c = cp '-')

def versionSuffix : Str → Bool
  | v :: d :: rest =>
    decide (v = cp 'v' ∧ 49 ≤ d.val ∧ d.val ≤ 57) &&
      rest.all (fun c => decide (48 ≤ c.val ∧ c.val ≤ 57))
  | _ => false

-- the digits hold no dot, so the version is what follows the last one
def isPayloadSchema (value : Str) : Bool :=
  let suffix := (value.reverse.takeWhile (fun c => decide (c ≠ cp '.'))).reverse
  let stem := value.take (value.length - suffix.length - 1)
  (lit "tbm.").isPrefixOf value && versionSuffix suffix &&
    (match stem.drop 4 with
      | c :: rest => schemaNameStart c && rest.all schemaNameRest
      | [] => false)

structure RegistrationFields where
  eventType : Str
  eventVersion : Nat
  eventKind : EventKind
  payloadSchema : Str
  document : SchemaDocument
  schema : Schema

def checkRoot (document : SchemaDocument) : Except GateError Unit := do
  raiseIf (document.get "type" ≠ some (.str (lit "object")))
    (schemaInvalid "event payload schema root must have object type")
  raiseIf (document.get "additionalProperties" ≠ some (.bool false))
    (schemaInvalid "event payload schema must reject additional properties")

def maxSchemaBytes : Nat := 128 * 1024

def copySchema (engine : PatternEngine) (document : SchemaDocument) : Except GateError Unit := do
  let _ ← (registryCopy "schema" "TBM_EVENT_REGISTRY_SCHEMA_INVALID").copy 0 0 (.obj document)
  let size ← demand (canonicalBytes engine.floatText (.obj document)) nonCanonicalRegistryJson
  raiseIf (maxSchemaBytes < size) (schemaInvalid "event payload schema exceeds byte limit")

-- The compiled schema is what the document defines.
structure EventPayloadRegistration (engine : PatternEngine) extends RegistrationFields where
  canonicalType : checkEventType eventType = .ok ()
  boundedVersion : checkVersion eventVersion "event_version" = .ok ()
  namedSchema : isPayloadSchema payloadSchema = true
  copied : copySchema engine document = .ok ()
  defined : validateSchemaDefinition engine schemaLevels document = .ok schema
  rooted : checkRoot document = .ok ()

inductive UpcastFault where
  | registry (e : GateError)
  | other

structure UpcasterFields where
  eventType : Str
  fromVersion : Nat
  toVersion : Nat
  upcasterId : Str
  producerVersion : Str
  transform : Json → Except UpcastFault Json

def checkUpcaster (u : UpcasterFields) : Except GateError Unit := do
  checkEventType u.eventType
  checkVersion u.fromVersion "from_version"
  checkVersion u.toVersion "to_version"
  raiseIf (u.toVersion ≠ u.fromVersion + 1)
    (upcasterInvalid "upcasters must advance exactly one event version")
  checkIdentifier u.upcasterId "upcaster_id"
  checkIdentifier u.producerVersion "producer_version"

structure EventPayloadUpcaster extends UpcasterFields where
  valid : checkUpcaster toUpcasterFields = .ok ()

end Records

section Registries

variable {engine : PatternEngine}

def maxTypes : Nat := 128

def maxVersionsPerType : Nat := 32

def maxUpcasters : Nat := 2048

def maxCompatibilityRows : Nat := 131072

structure EventTypeRegistry (engine : PatternEngine) where
  registrations : Dict (Str × Nat) (EventPayloadRegistration engine) := .empty
  schemaNames : List Str := []
  upcasters : Dict (Str × Nat) EventPayloadUpcaster := .empty
  upcasterIds : List Str := []
  isSealed : Bool := false

namespace EventTypeRegistry

variable (r : EventTypeRegistry engine)

def requireMutable : Except GateError Unit :=
  raiseIf (r.isSealed = true)
    (registryError "TBM_EVENT_REGISTRY_SEALED" "sealed event registry cannot be modified")

def requireSealed : Except GateError Unit :=
  raiseIf (r.isSealed = false)
    (registryError "TBM_EVENT_REGISTRY_NOT_SEALED" "event registry must be sealed before use")

def versionsOf (eventType : Str) : List Nat :=
  (r.registrations.keys.filter (fun k => decide (k.1 = eventType))).map Prod.snd

def eventTypes : List Str := (r.registrations.keys.map Prod.fst).dedup

local instance lawfulBEqVersion : LawfulBEq (Str × Nat) := inferInstance

def register (registration : EventPayloadRegistration engine) :
    Except GateError (EventTypeRegistry engine) := do
  r.requireMutable
  raiseIf ((registration.eventType, registration.eventVersion) ∈ r.registrations.keys)
    (registryError "TBM_EVENT_REGISTRY_DUPLICATE_TYPE_VERSION"
      "event type and version are already registered")
  raiseIf (registration.payloadSchema ∈ r.schemaNames)
    (registryError "TBM_EVENT_REGISTRY_DUPLICATE_SCHEMA" "payload schema name is already registered")
  raiseIf (maxVersionsPerType ≤ (r.versionsOf registration.eventType).length)
    (limitExceeded "event type version limit exceeded")
  raiseIf (registration.eventType ∉ r.eventTypes ∧ maxTypes ≤ r.eventTypes.length)
    (limitExceeded "event type limit exceeded")
  return { r with
    registrations :=
      r.registrations.set (registration.eventType, registration.eventVersion) registration
    schemaNames := registration.payloadSchema :: r.schemaNames }

def registerUpcaster (u : EventPayloadUpcaster) : Except GateError (EventTypeRegistry engine) := do
  r.requireMutable
  raiseIf (maxUpcasters ≤ r.upcasters.size) (limitExceeded "upcaster limit exceeded")
  let unregistered := upcasterInvalid "upcaster endpoints must both be registered"
  let source ← demand (r.registrations.get? (u.eventType, u.fromVersion)) unregistered
  let target ← demand (r.registrations.get? (u.eventType, u.toVersion)) unregistered
  raiseIf ((u.eventType, u.fromVersion) ∈ r.upcasters.keys)
    (registryError "TBM_EVENT_REGISTRY_DUPLICATE_UPCASTER"
      "upcaster source edge is already registered")
  raiseIf (u.upcasterId ∈ r.upcasterIds)
    (registryError "TBM_EVENT_REGISTRY_DUPLICATE_UPCASTER" "upcaster_id is already registered")
  raiseIf (source.eventKind ≠ target.eventKind) (upcasterInvalid "upcaster cannot change event_kind")
  return { r with
    upcasters := r.upcasters.set (u.eventType, u.fromVersion) u
    upcasterIds := u.upcasterId :: r.upcasterIds }

def sealRegistry : Except GateError (EventTypeRegistry engine) := do
  raiseIf (r.isSealed = false ∧ r.registrations.isEmpty = true)
    (registryError "TBM_EVENT_REGISTRY_EMPTY"
      "event registry cannot be sealed without registrations")
  return { r with isSealed := true }

end EventTypeRegistry

inductive RegistryCall (engine : PatternEngine) where
  | register (registration : EventPayloadRegistration engine)
  | registerUpcaster (u : EventPayloadUpcaster)
  | sealRegistry

-- A call that raises leaves the registry as it was.
def RegistryCall.perform (r : EventTypeRegistry engine) :
    RegistryCall engine → Except GateError (EventTypeRegistry engine)
  | .register registration => r.register registration
  | .registerUpcaster u => r.registerUpcaster u
  | .sealRegistry => r.sealRegistry

def afterCalls (r : EventTypeRegistry engine) :
    List (RegistryCall engine) → EventTypeRegistry engine
  | [] => r
  | call :: rest =>
    match call.perform r with
    | .ok next => afterCalls next rest
    | .error _ => afterCalls r rest

end Registries

section Consumption

variable {engine : PatternEngine} (r : EventTypeRegistry engine)

def unknownEvent : GateError :=
  registryError "TBM_EVENT_REGISTRY_UNKNOWN_EVENT"
    "event type or version is not registered for typed consumption"

structure TypedEventView where
  source : EventEnvelope
  eventType : Str
  sourceVersion : Nat
  targetVersion : Nat
  payloadSchema : Str
  payload : Json
  appliedUpcasterIds : List Str

def checkTypedView (engine : PatternEngine) (v : TypedEventView) : Except GateError Unit := do
  raiseIf (v.eventType ≠ v.source.eventType)
    (typedViewInvalid "typed event_type does not match source event")
  raiseIf (v.sourceVersion ≠ v.source.eventVersion)
    (typedViewInvalid "typed source_version does not match source event")
  raiseIf (v.targetVersion < v.sourceVersion ∨
      (v.targetVersion = v.sourceVersion ∧ v.payloadSchema ≠ v.source.payloadSchema))
    (typedViewInvalid "typed target version or payload schema is inconsistent")
  raiseIf (v.appliedUpcasterIds.length ≠ v.targetVersion - v.sourceVersion)
    (typedViewInvalid "typed upcaster chain length is inconsistent")
  checkEach (fun id => checkIdentifier id "applied_upcaster_id") v.appliedUpcasterIds
  copyPayload engine v.payload

def checkSource (registration : EventPayloadRegistration engine) (event : EventEnvelope) :
    Except GateError Unit := do
  raiseIf (event.eventKind ≠ registration.eventKind)
    (payloadInvalid "event_kind does not match its typed registration")
  raiseIf (event.payloadSchema ≠ registration.payloadSchema)
    (payloadInvalid "payload_schema does not match its typed registration")
  copyPayload engine event.payload
  registration.schema.validatePayload event.payload

def runTransform (u : EventPayloadUpcaster) (payload : Json) : Except GateError Json :=
  match u.transform payload with
  | .ok transformed => .ok transformed
  | .error (.registry e) => .error e
  | .error .other =>
    .error (registryError "TBM_EVENT_REGISTRY_UPCAST_FAILED" "event payload upcaster failed")

def upcastOnce (eventType : Str) (current : Nat) (payload : Json) : Except GateError (Json × Str) := do
  let u ← demand (r.upcasters.get? (eventType, current))
    (upcastUnsupported "required upcaster edge is not registered")
  let transformed ← runTransform u payload
  copyPayload engine transformed
  let registration ← demand (r.registrations.get? (eventType, current + 1))
    ⟨.valueError, [], lit "KeyError"⟩
  registration.schema.validatePayload transformed
  return (transformed, u.upcasterId)

-- The loop advances by one version a round and stops at the target, so it always ends.
def upcastLoop (eventType : Str) (target current : Nat) (payload : Json) (applied : List Str) :
    Except GateError (Json × List Str) :=
  if current < target then do
    let step ← upcastOnce r eventType current payload
    upcastLoop eventType target (current + 1) step.1 (applied ++ [step.2])
  else .ok (payload, applied)
  termination_by target - current

def inspect (event : EventEnvelope) : Except GateError (Option (EventPayloadRegistration engine)) := do
  r.requireSealed
  return r.registrations.get? (event.eventType, event.eventVersion)

def consume (event : EventEnvelope) (targetVersion : Option Nat) : Except GateError TypedEventView := do
  let resolution ← inspect r event
  let source ← demand resolution unknownEvent
  checkSource source event
  let target := targetVersion.getD event.eventVersion
  checkVersion target "target_version"
  raiseIf (target < event.eventVersion) (upcastUnsupported "typed consumers cannot downcast events")
  let registration ← demand (r.registrations.get? (event.eventType, target))
    (upcastUnsupported "target event version is not registered")
  let typed ← upcastLoop r event.eventType target event.eventVersion event.payload []
  let view : TypedEventView :=
    { source := event
      eventType := event.eventType
      sourceVersion := event.eventVersion
      targetVersion := target
      payloadSchema := registration.payloadSchema
      payload := typed.1
      appliedUpcasterIds := typed.2 }
  checkTypedView engine view
  return view

end Consumption

section Matrix

variable {engine : PatternEngine} (r : EventTypeRegistry engine)

inductive EventCompatibility where
  | native
  | upcast
  | unsupported
  deriving DecidableEq

structure EventCompatibilityRow where
  eventType : Str
  sourceVersion : Nat
  targetVersion : Nat
  compatibility : EventCompatibility
  deriving DecidableEq

def hasUpcastPath (eventType : Str) (current target : Nat) : Bool :=
  if current < target then
    if r.upcasters.contains (eventType, current) = false then false
    else hasUpcastPath eventType (current + 1) target
  else true
  termination_by target - current

def compatibilityOf (eventType : Str) (source target : Nat) : EventCompatibility :=
  if source = target then .native
  else if source < target ∧ hasUpcastPath r eventType source target = true then .upcast
  else .unsupported

def allRows : List EventCompatibilityRow :=
  (orderBy id r.eventTypes).flatMap (fun eventType =>
    (orderBy id (r.versionsOf eventType)).flatMap (fun source =>
      (orderBy id (r.versionsOf eventType)).map (fun target =>
        ⟨eventType, source, target, compatibilityOf r eventType source target⟩)))

-- the count is checked after every row, so it fails exactly when the whole list is too long
def compatibilityMatrix : Except GateError (List EventCompatibilityRow) := do
  r.requireSealed
  raiseIf (maxCompatibilityRows < (allRows r).length)
    (limitExceeded "compatibility matrix row limit exceeded")
  return allRows r

end Matrix

end Registry

end TraceBackedMemory
