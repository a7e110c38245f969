import TraceBackedMemory.Gate.Session
import TraceBackedMemory.Outbox.Delivery
import TraceBackedMemory.Foundation.SortedKeys

namespace TraceBackedMemory

open Text Raising

section Patterns

-- the first digit of every block of ten decimal digits
def decimalZeros : List Nat :=
  [0x30, 0x660, 0x6f0, 0x7c0, 0x966, 0x9e6, 0xa66, 0xae6, 0xb66, 0xbe6, 0xc66, 0xce6, 0xd66, 0xde6,
    0xe50, 0xed0, 0xf20, 0x1040, 0x1090, 0x17e0, 0x1810, 0x1946, 0x19d0, 0x1a80, 0x1a90, 0x1b50,
    0x1bb0, 0x1c40, 0x1c50, 0xa620, 0xa8d0, 0xa900, 0xa9d0, 0xa9f0, 0xaa50, 0xabf0, 0xff10, 0x104a0,
    0x10d30, 0x11066, 0x110f0, 0x11136, 0x111d0, 0x112f0, 0x11450, 0x114d0, 0x11650, 0x116c0,
    0x11730, 0x118e0, 0x11950, 0x11c50, 0x11d50, 0x11da0, 0x16a60, 0x16ac0, 0x16b50, 0x1d7ce,
    0x1d7d8, 0x1d7e2, 0x1d7ec, 0x1d7f6, 0x1e140, 0x1e2f0, 0x1e950, 0x1fbf0]

def isDecimal (c : CodePoint) : Bool :=
  decimalZeros.any (fun z => decide (z ≤ c.val ∧ c.val < z + 10))

def zonePattern (s : Str) : Bool :=
  match s with
  | [z] => decide (z = cp 'Z')
  | [sign, h₁, h₂, colon, m₁, m₂] =>
    decide (sign = cp '+' ∨ sign = cp '-') && decide (colon = cp ':') &&
      [h₁, h₂, m₁, m₂].all isDecimal
  | _ => false

def fractionPattern (s : Str) : Bool :=
  match s with
  | [] => false
  | c :: rest =>
    if c = cp '.' then
      decide (1 ≤ (rest.takeWhile isDecimal).length ∧ (rest.takeWhile isDecimal).length ≤ 6) &&
        zonePattern (rest.dropWhile isDecimal)
    else zonePattern s

def rfc3339Pattern (s : Str) : Bool :=
  match s with
  | y₁ :: y₂ :: y₃ :: y₄ :: s₁ :: m₁ :: m₂ :: s₂ :: d₁ :: d₂ :: t :: h₁ :: h₂ :: c₁ :: n₁ :: n₂ ::
      c₂ :: e₁ :: e₂ :: rest =>
    decide (s₁ = cp '-' ∧ s₂ = cp '-' ∧ t = cp 'T' ∧ c₁ = cp ':' ∧ c₂ = cp ':') &&
      [y₁, y₂, y₃, y₄, m₁, m₂, d₁, d₂, h₁, h₂, n₁, n₂, e₁, e₂].all isDecimal && fractionPattern rest
  | _ => false

def trimmedPattern (s : Str) : Bool :=
  match s.head?, s.getLast? with
  | some first, some last => !isSpace first && !isSpace last
  | _, _ => false

theorem isDecimal_digitPoint (n : Nat) : isDecimal (digitPoint n) = true := by
  refine List.any_eq_true.mpr ⟨0x30, List.mem_cons_self, decide_eq_true ?_⟩
  rw [val_digitPoint]
  omega

theorem rfc3339Pattern_isoformat (i : Nat) : rfc3339Pattern (isoformat i) = true := by
  have hzone : isDecimal (cp 'Z') = false := by decide
  have hfraction : fractionPattern (fractionText (i % 1000000)) = true := by
    unfold fractionText
    split
    · decide
    · simp only [fractionPattern, List.cons_append, if_true, sixDigits, fourDigits, twoDigits,
        List.nil_append, List.takeWhile_cons, List.dropWhile_cons, isDecimal_digitPoint, hzone,
        Bool.false_eq_true, if_false, List.length_cons, List.length_nil]
      rfl
  simp only [isoformat, secondText, dateTime, fourDigits, twoDigits, List.cons_append,
    List.nil_append, rfc3339Pattern, hfraction, List.all_cons, List.all_nil, isDecimal_digitPoint,
    Bool.and_true, and_self, decide_true]

theorem length_isoformat (i : Nat) : (isoformat i).length ≤ 27 := by
  have hfraction : (fractionText (i % 1000000)).length ≤ 8 := by
    unfold fractionText
    split
    · simp
    · simp [sixDigits, fourDigits, twoDigits]
  rw [isoformat, List.length_append, secondText]
  simp only [dateTime, fourDigits, twoDigits, List.length_append, List.length_cons, List.length_nil]
  omega

theorem trimmedPattern_iff {s : Str} : trimmedPattern s = true ↔ Tight s := by
  constructor
  · intro h
    unfold trimmedPattern at h
    split at h
    · rename_i first last hfirst hlast
      rw [Bool.and_eq_true, Bool.not_eq_true', Bool.not_eq_true'] at h
      exact ⟨⟨first, hfirst, h.1⟩, ⟨last, hlast, h.2⟩⟩
    · cases h
  · rintro ⟨⟨first, hfirst, h₁⟩, ⟨last, hlast, h₂⟩⟩
    rw [trimmedPattern, hfirst, hlast]
    simp [h₁, h₂]

end Patterns

section Comparison

mutual

-- A payload's lists and dicts against a frozen schema, where a list has become a tuple and a dict
-- a mapping proxy: a list never equals a tuple, and a proxy compares as the dict it shows.
def frozenEq : Json → Json → Bool
  | .null, .null => true
  | .str s, .str t => decide (s = t)
  | .arr _, .arr _ => false
  | .obj l, .obj m => decide (l.length = m.length) && frozenEqFields l m
  | a, b =>
    match a.number?, b.number? with
    | some x, some y => x.eq y
    | _, _ => false

def frozenEqFields : List (Str × Json) → List (Str × Json) → Bool
  | [], _ => true
  | (k, v) :: l, m =>
    (match m.find? (fun p => decide (p.1 = k)) with
      | some p => frozenEq v p.2
      | none => false) && frozenEqFields l m

end

-- the integers that round to no finite double
def exceedsDouble : Number → Bool
  | .int n => decide (2 ^ 1024 - 2 ^ 970 ≤ n.natAbs)
  | .float _ => false

def intTooLarge : GateError := ⟨.overflow, [], lit "int too large to convert to float"⟩

end Comparison

section Schemas

mutual

inductive Schema where
  | mk (oneOf : List Schema) (const : Option Json) (enum : Option (List Json)) (type : SchemaType)

inductive SchemaType where
  | unspecified
  | object (required : List Str) (properties : List (Str × Schema))
  | array (items : Schema) (minItems maxItems : Option Nat) (uniqueItems : Bool)
  | string (minLength maxLength : Option Nat) (pattern : Option (Str → Bool))
  | integer (minimum maximum : Option Number)
  | number (minimum maximum : Option Number)
  | boolean
  | null

end

def payloadInvalid (message : String) : GateError :=
  ⟨.contract, lit "TBM_EVENT_REGISTRY_PAYLOAD_INVALID", lit message⟩

def validateLength (length : Nat) (minimum maximum : Option Nat) (short long : String) :
    Except GateError Unit := do
  raiseIf (∃ m ∈ minimum, length < m) (payloadInvalid short)
  raiseIf (∃ m ∈ maximum, m < length) (payloadInvalid long)

def validateNumberBounds (value : Number) (minimum maximum : Option Number) :
    Except GateError Unit := do
  raiseIf (∃ m ∈ minimum, value.lt m = true) (payloadInvalid "payload number is lower than allowed")
  raiseIf (∃ m ∈ maximum, m.lt value = true) (payloadInvalid "payload number is higher than allowed")

mutual

def Schema.validatePayload : Schema → Json → Except GateError Unit
  | .mk oneOf const enum type, value => do
    let matched ← Schema.countMatches oneOf value
    raiseIf (oneOf ≠ [] ∧ matched ≠ 1)
      (payloadInvalid "payload does not match exactly one schema choice")
    raiseIf (∃ v ∈ const, frozenEq value v = false)
      (payloadInvalid "payload value does not match schema const")
    raiseIf (∃ l ∈ enum, l.any (frozenEq value) = false)
      (payloadInvalid "payload value is not in schema enum")
    SchemaType.validatePayload type value

-- only the registry's own error counts as a choice that does not match
def Schema.countMatches : List Schema → Json → Except GateError Nat
  | [], _ => .ok 0
  | choice :: rest, value => do
    let matched ← (match Schema.validatePayload choice value with
      | .ok _ => .ok 1
      | .error e => if e.fault = .overflow then .error e else .ok 0)
    let others ← Schema.countMatches rest value
    return matched + others

def SchemaType.validatePayload : SchemaType → Json → Except GateError Unit
  | .unspecified, _ => .ok ()
  | .object required properties, value =>
    match value with
    | .obj fields => do
      raiseIf (∃ name ∈ required, name ∉ fields.map Prod.fst)
        (payloadInvalid "payload object is missing required fields")
      raiseIf (∃ f ∈ fields, f.1 ∉ properties.map Prod.fst)
        (payloadInvalid "payload object contains unknown fields")
      checkEach (fun f : Str × Json => Schema.validateProperty properties f.1 f.2) fields
    | _ => .error (payloadInvalid "payload field must be an object")
  | .array items minItems maxItems uniqueItems, value =>
    match value with
    | .arr values => do
      validateLength values.length minItems maxItems "payload array is shorter than allowed"
        "payload array is longer than allowed"
      raiseIf (uniqueItems = true ∧ ¬(values.map Json.sortKeys).Nodup)
        (payloadInvalid "payload array items must be unique")
      checkEach (fun item => Schema.validatePayload items item) values
    | _ => .error (payloadInvalid "payload field must be an array")
  | .string minLength maxLength pattern, value =>
    match value with
    | .str text => do
      validateLength text.length minLength maxLength "payload string is shorter than allowed"
        "payload string is longer than allowed"
      raiseIf (∃ p ∈ pattern, p text = false)
        (payloadInvalid "payload string does not match schema pattern")
    | _ => .error (payloadInvalid "payload field must be a string")
  | .integer minimum maximum, value =>
    match value with
    | .num (.int n) => validateNumberBounds (.int n) minimum maximum
    | _ => .error (payloadInvalid "payload field must be an integer")
  | .number minimum maximum, value =>
    match value with
    | .num n => do
      raiseIf (exceedsDouble n = true) intTooLarge
      raiseIf (n.isFinite = false) (payloadInvalid "payload field must be a finite number")
      validateNumberBounds n minimum maximum
    | _ => .error (payloadInvalid "payload field must be a finite number")
  | .boolean, value =>
    match value with
    | .bool _ => .ok ()
    | _ => .error (payloadInvalid "payload field must be a boolean")
  | .null, value =>
    match value with
    | .null => .ok ()
    | _ => .error (payloadInvalid "payload field must be null")

def Schema.validateProperty : List (Str × Schema) → Str → Json → Except GateError Unit
  | [], _, _ => .error (payloadInvalid "KeyError")
  | (name, schema) :: rest, key, value =>
    if name = key then Schema.validatePayload schema value
    else Schema.validateProperty rest key value

end

theorem Schema.validatePayload_eq_ok {oneOf : List Schema} {const : Option Json}
    {enum : Option (List Json)} {type : SchemaType} {value : Json} :
    (Schema.mk oneOf const enum type).validatePayload value = .ok () ↔
      (∃ matched, Schema.countMatches oneOf value = .ok matched ∧ (oneOf ≠ [] → matched = 1)) ∧
        (∀ v ∈ const, frozenEq value v = true) ∧ (∀ l ∈ enum, l.any (frozenEq value) = true) ∧
          type.validatePayload value = .ok () := by
  simp only [Schema.validatePayload, bind_eq_ok, exists_unit, raiseIf_eq_ok, not_and, not_not,
    not_exists, Bool.not_eq_false, ne_eq]
  constructor
  · rintro ⟨matched, hcount, hone, hconst, henum, htype⟩
    exact ⟨⟨matched, hcount, hone⟩, hconst, henum, htype⟩
  · rintro ⟨⟨matched, hcount, hone⟩, hconst, henum, htype⟩
    exact ⟨matched, hcount, hone, hconst, henum, htype⟩

theorem Schema.validateProperty_cons_of_ne {name key : Str} (h : name ≠ key) (schema : Schema)
    (rest : List (Str × Schema)) (value : Json) :
    validateProperty ((name, schema) :: rest) key value = validateProperty rest key value := by
  rw [validateProperty, if_neg h]

theorem Schema.validateProperties_iff {properties : List (Str × Schema)} {fields : List (Str × Json)}
    (hkeys : fields.map Prod.fst = properties.map Prod.fst)
    (hnodup : (properties.map Prod.fst).Nodup) :
    checkEach (fun f : Str × Json => validateProperty properties f.1 f.2) fields = .ok () ↔
      List.Forall₂ (fun (p : Str × Schema) (f : Str × Json) => p.2.validatePayload f.2 = .ok ())
        properties fields := by
  induction properties generalizing fields with
  | nil =>
    obtain rfl := List.map_eq_nil_iff.mp hkeys
    simp [checkEach]
  | cons p properties ih =>
    obtain ⟨f, l, rfl, hname, htail⟩ := List.map_eq_cons_iff.mp hkeys
    obtain ⟨hfresh, hrest⟩ := List.nodup_cons.mp hnodup
    obtain ⟨name, schema⟩ := p
    have hskip : ∀ g ∈ l, validateProperty ((name, schema) :: properties) g.1 g.2 =
        validateProperty properties g.1 g.2 := by
      intro g hg
      refine validateProperty_cons_of_ne ?_ schema properties g.2
      rintro rfl
      exact hfresh (htail ▸ List.mem_map_of_mem hg)
    rw [List.forall₂_cons, ← ih htail hrest, checkEach_eq_ok, checkEach_eq_ok,
      List.forall_mem_cons]
    refine and_congr ?_ ?_
    · rw [validateProperty, if_pos hname.symm]
    · exact forall₂_congr fun g hg => by rw [hskip g hg]

theorem SchemaType.object_iff {required : List Str} {properties : List (Str × Schema)}
    {fields : List (Str × Json)} (hrequired : required = properties.map Prod.fst)
    (hkeys : fields.map Prod.fst = properties.map Prod.fst)
    (hnodup : (properties.map Prod.fst).Nodup) :
    (SchemaType.object required properties).validatePayload (.obj fields) = .ok () ↔
      List.Forall₂ (fun (p : Str × Schema) (f : Str × Json) => p.2.validatePayload f.2 = .ok ())
        properties fields := by
  have hmissing : ¬∃ name ∈ required, name ∉ fields.map Prod.fst := by
    rw [hrequired, hkeys]
    rintro ⟨name, hmem, hnot⟩
    exact hnot hmem
  have hunknown : ¬∃ f ∈ fields, f.1 ∉ properties.map Prod.fst := by
    rw [← hkeys]
    rintro ⟨f, hmem, hnot⟩
    exact hnot (List.mem_map_of_mem hmem)
  rw [← Schema.validateProperties_iff hkeys hnodup, validatePayload]
  show (do
    raiseIf (∃ name ∈ required, name ∉ fields.map Prod.fst) _
    raiseIf (∃ f ∈ fields, f.1 ∉ properties.map Prod.fst) _
    checkEach (fun f : Str × Json => Schema.validateProperty properties f.1 f.2) fields) =
      Except.ok () ↔ _
  rw [raiseIf_of_not hmissing, raiseIf_of_not hunknown]
  rfl

end Schemas

end TraceBackedMemory
