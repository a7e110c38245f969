import TraceBackedMemory.Ledger.SchemaDefinitions

namespace TraceBackedMemory

open Text Raising Json

section Values

mutual

-- Equality of JSON values: a boolean is no number, and numbers are compared by value.
def sameValue : Json → Json → Bool
  | .null, .null => true
  | .bool a, .bool b => decide (a = b)
  | .num x, .num y => x.eq y
  | .str s, .str t => decide (s = t)
  | .arr l, .arr m => sameItems l m
  | .obj l, .obj m => decide (l.length = m.length) && sameFields l m
  | _, _ => false

def sameItems : List Json → List Json → Bool
  | [], [] => true
  | a :: l, b :: m => sameValue a b && sameItems l m
  | _, _ => false

def sameFields : List (Str × Json) → List (Str × Json) → Bool
  | [], _ => true
  | (k, v) :: l, m =>
    (match m.find? (fun p => decide (p.1 = k)) with
      | some p => sameValue v p.2
      | none => false) && sameFields l m

end

mutual

-- No array meets an array and no boolean meets a number.
def comparable : Json → Json → Bool
  | .arr _, .arr _ => false
  | .bool _, .num _ | .num _, .bool _ => false
  | .obj l, .obj m => comparableFields l m
  | _, _ => true

def comparableFields : List (Str × Json) → List (Str × Json) → Bool
  | [], _ => true
  | (k, v) :: l, m =>
    (match m.find? (fun p => decide (p.1 = k)) with
      | some p => comparable v p.2
      | none => true) && comparableFields l m

end

def integral : Number → Bool
  | .int _ => true
  | .float x => x.isFinite && decide (x.scaled % 2 ^ 1074 = 0)

theorem frozenEqFields_eq {l m : List (Str × Json)}
    (ih : ∀ field ∈ l, ∀ c, comparable field.2 c = true →
      frozenEq field.2 c = sameValue field.2 c)
    (h : comparableFields l m = true) : frozenEqFields l m = sameFields l m := by
  induction l with
  | nil => rfl
  | cons field l hl =>
    obtain ⟨k, v⟩ := field
    rw [comparableFields, Bool.and_eq_true] at h
    rw [frozenEqFields, sameFields, hl (fun f hf => ih f (List.mem_cons_of_mem _ hf)) h.2]
    cases hfind : m.find? (fun p => decide (p.1 = k)) with
    | none => rfl
    | some p =>
      have hvalue := h.1
      rw [hfind] at hvalue
      dsimp only
      rw [ih (k, v) List.mem_cons_self p.2 hvalue]

theorem frozenEq_eq_sameValue {v c : Json} (h : comparable v c = true) :
    frozenEq v c = sameValue v c := by
  induction v using Json.inductOn generalizing c with
  | null => cases c <;> rfl
  | bool b =>
    cases c with
    | bool a =>
      have hbits : Number.eq (ofBool b) (ofBool a) = decide (b = a) := by
        cases b <;> cases a <;> decide +kernel
      simp only [frozenEq, sameValue, Json.number?, hbits]
    | num n => cases h
    | null | str s | arr items | obj fields => simp only [frozenEq, sameValue, Json.number?]
  | num n =>
    cases c with
    | bool a => cases h
    | null | num n | str s | arr items | obj fields => simp only [frozenEq, sameValue, Json.number?]
  | str s => cases c <;> rfl
  | arr items =>
    cases c with
    | arr l => cases h
    | null | bool b | num n | str s | obj fields => rfl
  | obj fields ih =>
    cases c with
    | obj m =>
      rw [comparable] at h
      rw [frozenEq, sameValue, frozenEqFields_eq ih h]
    | null | bool b | num n | str s | arr items => rfl

end Values

section Meaning

-- How a dialect reads the two keywords that implementations disagree on.
structure SchemaReading where
  integer : Number → Bool
  repeated : Json → Json → Bool

def standardReading : SchemaReading := ⟨integral, sameValue⟩

def registryReading : SchemaReading := ⟨isInt, fun a b => decide (sortKeys a = sortKeys b)⟩

def InRange (n : Nat) (minimum maximum : Option Nat) : Prop :=
  (∀ m ∈ minimum, m ≤ n) ∧ ∀ m ∈ maximum, n ≤ m

def InBounds (n : Number) (minimum maximum : Option Number) : Prop :=
  (∀ m ∈ minimum, n.lt m = false) ∧ ∀ m ∈ maximum, m.lt n = false

variable (r : SchemaReading)

mutual

def Schema.Satisfies : Schema → Json → Prop
  | .mk oneOf const enum type, value =>
    (oneOf ≠ [] → Schema.ExactlyOne oneOf value) ∧ (∀ c ∈ const, sameValue value c = true) ∧
      (∀ l ∈ enum, ∃ c ∈ l, sameValue value c = true) ∧ SchemaType.Satisfies type value

def Schema.NoneOf : List Schema → Json → Prop
  | [], _ => True
  | choice :: rest, value => ¬Schema.Satisfies choice value ∧ Schema.NoneOf rest value

def Schema.ExactlyOne : List Schema → Json → Prop
  | [], _ => False
  | choice :: rest, value =>
    (Schema.Satisfies choice value ∧ Schema.NoneOf rest value) ∨
      (¬Schema.Satisfies choice value ∧ Schema.ExactlyOne rest value)

def SchemaType.Satisfies : SchemaType → Json → Prop
  | .unspecified, _ => True
  | .object required properties, value =>
    match value with
    | .obj fields => (∀ name ∈ required, name ∈ fields.map Prod.fst) ∧
        ∀ f ∈ fields, Schema.PropertySatisfied properties f.1 f.2
    | _ => False
  | .array items minItems maxItems uniqueItems, value =>
    match value with
    | .arr values => InRange values.length minItems maxItems ∧
        (uniqueItems = true → values.Pairwise (fun a b => r.repeated a b = false)) ∧
          ∀ item ∈ values, Schema.Satisfies items item
    | _ => False
  | .string minLength maxLength pattern, value =>
    match value with
    | .str text => InRange text.length minLength maxLength ∧ ∀ p ∈ pattern, p text = true
    | _ => False
  | .integer minimum maximum, value =>
    match value with
    | .num n => r.integer n = true ∧ InBounds n minimum maximum
    | _ => False
  | .number minimum maximum, value =>
    match value with
    | .num n => n.isFinite = true ∧ InBounds n minimum maximum
    | _ => False
  | .boolean, value => ∃ b, value = .bool b
  | .null, value => value = .null

def Schema.PropertySatisfied : List (Str × Schema) → Str → Json → Prop
  | [], _, _ => False
  | (name, schema) :: rest, key, value =>
    (name = key → Schema.Satisfies schema value) ∧
      (name ≠ key → Schema.PropertySatisfied rest key value)

end

mutual

-- Every const and enum comparison the walk can make is clear, and so is every finiteness test.
def Schema.Clear : Schema → Json → Prop
  | .mk oneOf const enum type, value =>
    Schema.AllClear oneOf value ∧ (∀ c ∈ const, comparable value c = true) ∧
      (∀ l ∈ enum, ∀ c ∈ l, comparable value c = true) ∧ SchemaType.Clear type value

def Schema.AllClear : List Schema → Json → Prop
  | [], _ => True
  | choice :: rest, value => Schema.Clear choice value ∧ Schema.AllClear rest value

def SchemaType.Clear : SchemaType → Json → Prop
  | .object _ properties, value =>
    match value with
    | .obj fields => ∀ f ∈ fields, Schema.PropertyClear properties f.1 f.2
    | _ => True
  | .array items _ _ _, value =>
    match value with
    | .arr values => ∀ item ∈ values, Schema.Clear items item
    | _ => True
  | .number _ _, value =>
    match value with
    | .num n => exceedsDouble n = false
    | _ => True
  | _, _ => True

def Schema.PropertyClear : List (Str × Schema) → Str → Json → Prop
  | [], _, _ => True
  | (name, schema) :: rest, key, value =>
    (name = key → Schema.Clear schema value) ∧ Schema.PropertyClear rest key value

end

end Meaning

section Induction

variable {motive : Schema → Prop} {typeMotive : SchemaType → Prop}

structure SchemaCases (motive : Schema → Prop) (typeMotive : SchemaType → Prop) : Prop where
  node : ∀ oneOf const enum type, (∀ choice ∈ oneOf, motive choice) → typeMotive type →
    motive (.mk oneOf const enum type)
  unspecified : typeMotive .unspecified
  object : ∀ required properties, (∀ p ∈ properties, motive p.2) →
    typeMotive (.object required properties)
  array : ∀ items low high unique, motive items → typeMotive (.array items low high unique)
  string : ∀ low high pattern, typeMotive (.string low high pattern)
  integer : ∀ low high, typeMotive (.integer low high)
  number : ∀ low high, typeMotive (.number low high)
  boolean : typeMotive .boolean
  null : typeMotive .null

mutual

theorem Schema.inductOn (h : SchemaCases motive typeMotive) : (schema : Schema) → motive schema
  | .mk oneOf const enum type =>
    h.node oneOf const enum type (Schema.inductChoices h oneOf) (SchemaType.inductOn h type)

theorem Schema.inductChoices (h : SchemaCases motive typeMotive) :
    (choices : List Schema) → ∀ choice ∈ choices, motive choice
  | [] => List.forall_mem_nil _
  | choice :: rest => List.forall_mem_cons.mpr
      ⟨Schema.inductOn h choice, Schema.inductChoices h rest⟩

theorem SchemaType.inductOn (h : SchemaCases motive typeMotive) :
    (type : SchemaType) → typeMotive type
  | .unspecified => h.unspecified
  | .object required properties => h.object required properties (Schema.inductProperties h properties)
  | .array items low high unique => h.array items low high unique (Schema.inductOn h items)
  | .string low high pattern => h.string low high pattern
  | .integer low high => h.integer low high
  | .number low high => h.number low high
  | .boolean => h.boolean
  | .null => h.null

theorem Schema.inductProperties (h : SchemaCases motive typeMotive) :
    (properties : List (Str × Schema)) → ∀ p ∈ properties, motive p.2
  | [] => List.forall_mem_nil _
  | (_, schema) :: rest => List.forall_mem_cons.mpr
      ⟨Schema.inductOn h schema, Schema.inductProperties h rest⟩

end

end Induction

section Equations

attribute [local simp] SchemaType.Satisfies SchemaType.validatePayload SchemaType.Clear
  Schema.Satisfies Schema.validatePayload Schema.PropertySatisfied Schema.countMatches Schema.validateProperty

end Equations

section Agreement

-- The check passes exactly when the property holds, and what it raises is the registry's own error.
def Decides (check : Except GateError Unit) (p : Prop) : Prop :=
  (check = .ok () ↔ p) ∧ ∀ e, check = .error e → e.fault ≠ .overflow

theorem ok_bind {α β : Type} {a : α} {f : α → Except GateError β} : (Except.ok a >>= f) = f a := rfl

theorem decides_raiseIf {p : Prop} [Decidable p] {e : GateError} (h : e.fault ≠ .overflow) :
    Decides (raiseIf p e) ¬p := by
  refine ⟨raiseIf_eq_ok, ?_⟩
  intro e' he'
  by_cases hp : p
  · rw [raiseIf_of hp] at he'
    cases he'
    exact h
  · rw [raiseIf_of_not hp] at he'
    cases he'

theorem decides_ok {p : Prop} (h : p) : Decides (.ok ()) p := by
  refine ⟨iff_of_true rfl h, ?_⟩
  intro e he
  cases he

theorem decides_error {p : Prop} {e : GateError} (he : e.fault ≠ .overflow) (h : ¬p) :
    Decides (.error e) p := by
  refine ⟨iff_of_false (fun hok => by cases hok) h, ?_⟩
  intro e' heq
  cases heq
  exact he

theorem Decides.and {x : Except GateError Unit} {y : Except GateError Unit} {p q : Prop}
    (hx : Decides x p) (hy : Decides y q) : Decides (x >>= fun _ => y) (p ∧ q) := by
  refine ⟨?_, ?_⟩
  · rw [seq_eq_ok, hx.1, hy.1]
  · intro e he
    cases hrun : x with
    | error e' =>
      rw [hrun] at he
      cases he
      exact hx.2 _ hrun
    | ok u =>
      rw [hrun] at he
      exact hy.2 e he

theorem Decides.congr {x : Except GateError Unit} {p q : Prop} (h : Decides x p) (hpq : p ↔ q) :
    Decides x q :=
  ⟨h.1.trans hpq, h.2⟩

theorem decides_checkEach {α : Type} {f : α → Except GateError Unit} {P : α → Prop} {l : List α}
    (h : ∀ a ∈ l, Decides (f a) (P a)) : Decides (checkEach f l) (∀ a ∈ l, P a) := by
  induction l with
  | nil => exact decides_ok (List.forall_mem_nil _)
  | cons a l ih =>
    obtain ⟨ha, hl⟩ := List.forall_mem_cons.mp h
    exact (ha.and (ih hl)).congr List.forall_mem_cons.symm

theorem validateLength_decides {n : Nat} {minimum maximum : Option Nat} {short long : String} :
    Decides (validateLength n minimum maximum short long) (InRange n minimum maximum) := by
  refine ((decides_raiseIf ?_).and (decides_raiseIf ?_)).congr ?_
  · exact GateFault.noConfusion
  · exact GateFault.noConfusion
  · simp only [InRange, not_exists, not_and, not_lt]

theorem validateNumberBounds_decides {n : Number} {minimum maximum : Option Number} :
    Decides (validateNumberBounds n minimum maximum) (InBounds n minimum maximum) := by
  refine ((decides_raiseIf ?_).and (decides_raiseIf ?_)).congr ?_
  · exact GateFault.noConfusion
  · exact GateFault.noConfusion
  · simp only [InBounds, not_exists, not_and, Bool.not_eq_true]

variable {r : SchemaReading}

theorem countMatches_decides {choices : List Schema} {value : Json}
    (h : ∀ choice ∈ choices, Decides (choice.validatePayload value) (choice.Satisfies r value)) :
    ∃ n, Schema.countMatches choices value = .ok n ∧ (n = 0 ↔ Schema.NoneOf r choices value) ∧
      (n = 1 ↔ Schema.ExactlyOne r choices value) := by
  induction choices with
  | nil => exact ⟨0, rfl, by simp [Schema.NoneOf], by simp [Schema.ExactlyOne]⟩
  | cons choice rest ih =>
    obtain ⟨hchoice, hrest⟩ := List.forall_mem_cons.mp h
    obtain ⟨n, hcount, hnone, hone⟩ := ih hrest
    cases hrun : choice.validatePayload value with
    | ok u =>
      have hsatisfies := hchoice.1.mp hrun
      refine ⟨1 + n, by rw [Schema.countMatches, hrun, hcount]; rfl, ?_, ?_⟩
      · simp [Schema.NoneOf, hsatisfies]
      · simp [Schema.ExactlyOne, hsatisfies, ← hnone]
    | error e =>
      have hfails : ¬choice.Satisfies r value := by
        rw [← hchoice.1, hrun]
        exact fun hok => by cases hok
      have hfault := hchoice.2 e hrun
      refine ⟨0 + n, by rw [Schema.countMatches, hrun, hcount]; simp only [if_neg hfault]; rfl, ?_, ?_⟩
      · simp [Schema.NoneOf, hfails, ← hnone]
      · simp [Schema.ExactlyOne, hfails, ← hone]

theorem allClear_iff {choices : List Schema} {value : Json} :
    Schema.AllClear choices value ↔ ∀ choice ∈ choices, choice.Clear value := by
  induction choices with
  | nil => simp [Schema.AllClear]
  | cons choice rest ih => rw [Schema.AllClear, ih, List.forall_mem_cons]

theorem payloadInvalid_fault (message : String) : (payloadInvalid message).fault ≠ .overflow :=
  GateFault.noConfusion

theorem validateProperty_decides {properties : List (Str × Schema)} {key : Str} {value : Json}
    (h : ∀ p ∈ properties, p.2.Clear value →
      Decides (p.2.validatePayload value) (p.2.Satisfies registryReading value))
    (hclear : Schema.PropertyClear properties key value) :
    Decides (Schema.validateProperty properties key value)
      (Schema.PropertySatisfied registryReading properties key value) := by
  induction properties with
  | nil =>
    rw [Schema.validateProperty]
    exact decides_error (payloadInvalid_fault _) (by simp [Schema.PropertySatisfied])
  | cons p rest ih =>
    obtain ⟨name, schema⟩ := p
    obtain ⟨hfirst, hrest⟩ := List.forall_mem_cons.mp h
    rw [Schema.PropertyClear] at hclear
    by_cases hname : name = key
    · rw [Schema.validateProperty, if_pos hname]
      refine (hfirst (hclear.1 hname)).congr ?_
      simp [Schema.PropertySatisfied, hname]
    · rw [Schema.validateProperty, if_neg hname]
      refine (ih hrest hclear.2).congr ?_
      simp [Schema.PropertySatisfied, hname]

theorem mem_of_propertySatisfied {properties : List (Str × Schema)} {key : Str} {value : Json}
    (h : Schema.PropertySatisfied r properties key value) : key ∈ properties.map Prod.fst := by
  induction properties with
  | nil => simp [Schema.PropertySatisfied] at h
  | cons p rest ih =>
    obtain ⟨name, schema⟩ := p
    rw [Schema.PropertySatisfied] at h
    by_cases hname : name = key
    · exact List.mem_cons.mpr (.inl hname.symm)
    · exact List.mem_cons_of_mem _ (ih (h.2 hname))

theorem pairwise_repeated_iff {values : List Json} :
    (values.map sortKeys).Nodup ↔
      values.Pairwise (fun a b => registryReading.repeated a b = false) := by
  rw [List.Nodup, List.pairwise_map]
  simp [registryReading]

def SchemaDecided (schema : Schema) : Prop :=
  ∀ value, schema.Clear value →
    Decides (schema.validatePayload value) (schema.Satisfies registryReading value)

def TypeDecided (type : SchemaType) : Prop :=
  ∀ value, type.Clear value →
    Decides (type.validatePayload value) (type.Satisfies registryReading value)

theorem node_decided (oneOf : List Schema) (const : Option Json) (enum : Option (List Json))
    (type : SchemaType) (hchoices : ∀ choice ∈ oneOf, SchemaDecided choice) (htype : TypeDecided type) :
    SchemaDecided (.mk oneOf const enum type) := by
  intro value hclear
  rw [Schema.Clear, allClear_iff] at hclear
  obtain ⟨hall, hconst, henum, hclearType⟩ := hclear
  obtain ⟨n, hcount, -, hone⟩ :=
    countMatches_decides fun choice hc => hchoices choice hc value (hall choice hc)
  rw [Schema.validatePayload, hcount, ok_bind]
  refine ((decides_raiseIf (payloadInvalid_fault _)).and
    ((decides_raiseIf (payloadInvalid_fault _)).and
      ((decides_raiseIf (payloadInvalid_fault _)).and (htype value hclearType)))).congr ?_
  rw [Schema.Satisfies, not_and, not_not, hone]
  refine and_congr_right fun _ => and_congr ?_ (and_congr ?_ Iff.rfl)
  · simp only [not_exists, not_and, Bool.not_eq_false]
    exact forall₂_congr fun c hc => by rw [frozenEq_eq_sameValue (hconst c hc)]
  · simp only [not_exists, not_and, Bool.not_eq_false, List.any_eq_true]
    refine forall₂_congr fun l hl => exists_congr fun c => and_congr_right fun hc => ?_
    rw [frozenEq_eq_sameValue (henum l hl c hc)]

theorem object_decided (required : List Str) (properties : List (Str × Schema))
    (h : ∀ p ∈ properties, SchemaDecided p.2) : TypeDecided (.object required properties) := by
  intro value hclear
  cases value with
  | obj fields =>
    rw [SchemaType.Clear] at hclear
    have hfields (f : Str × Json) (hf : f ∈ fields) :=
      validateProperty_decides (fun p hp => h p hp f.2) (hclear f hf)
    simp only [SchemaType.validatePayload, SchemaType.Satisfies]
    refine ((decides_raiseIf (payloadInvalid_fault _)).and
      ((decides_raiseIf (payloadInvalid_fault _)).and (decides_checkEach hfields))).congr ?_
    constructor
    · rintro ⟨hrequired, -, hall⟩
      refine ⟨?_, hall⟩
      intro name hname
      by_contra hmissing
      exact hrequired ⟨name, hname, hmissing⟩
    · rintro ⟨hrequired, hall⟩
      refine ⟨?_, ?_, hall⟩
      · rintro ⟨name, hname, hmissing⟩
        exact hmissing (hrequired name hname)
      · rintro ⟨f, hf, hunknown⟩
        exact hunknown (mem_of_propertySatisfied (hall f hf))
  | null | bool b | num n | str s | arr items =>
    exact decides_error (payloadInvalid_fault _) (by simp [SchemaType.Satisfies])

theorem array_decided (items : Schema) (low high : Option Nat) (unique : Bool)
    (h : SchemaDecided items) : TypeDecided (.array items low high unique) := by
  intro value hclear
  cases value with
  | arr values =>
    rw [SchemaType.Clear] at hclear
    have hitems (item : Json) (hitem : item ∈ values) := h item (hclear item hitem)
    simp only [SchemaType.validatePayload, SchemaType.Satisfies]
    refine (validateLength_decides.and ((decides_raiseIf (payloadInvalid_fault _)).and
      (decides_checkEach hitems))).congr ?_
    rw [not_and, not_not, pairwise_repeated_iff]
  | null | bool b | num n | str s | obj fields =>
    exact decides_error (payloadInvalid_fault _) (by simp [SchemaType.Satisfies])

theorem string_decided (low high : Option Nat) (pattern : Option (Str → Bool)) :
    TypeDecided (.string low high pattern) := by
  intro value _
  cases value with
  | str text =>
    simp only [SchemaType.validatePayload, SchemaType.Satisfies]
    refine (validateLength_decides.and (decides_raiseIf (payloadInvalid_fault _))).congr ?_
    simp only [not_exists, not_and, Bool.not_eq_false]
  | null | bool b | num n | arr items | obj fields =>
    exact decides_error (payloadInvalid_fault _) (by simp [SchemaType.Satisfies])

theorem integer_decided (low high : Option Number) : TypeDecided (.integer low high) := by
  intro value _
  cases value with
  | num n =>
    cases n with
    | int n =>
      simp only [SchemaType.validatePayload, SchemaType.Satisfies]
      exact validateNumberBounds_decides.congr (by simp [registryReading, isInt])
    | float x =>
      exact decides_error (payloadInvalid_fault _)
        (by simp [SchemaType.Satisfies, registryReading, isInt])
  | null | bool b | str s | arr items | obj fields =>
    exact decides_error (payloadInvalid_fault _) (by simp [SchemaType.Satisfies])

theorem number_decided (low high : Option Number) : TypeDecided (.number low high) := by
  intro value hclear
  cases value with
  | num n =>
    rw [SchemaType.Clear] at hclear
    simp only [SchemaType.validatePayload, SchemaType.Satisfies]
    rw [raiseIf_of_not (by rw [hclear]; exact Bool.false_ne_true)]
    refine ((decides_raiseIf (payloadInvalid_fault _)).and validateNumberBounds_decides).congr ?_
    rw [Bool.not_eq_false]
  | null | bool b | str s | arr items | obj fields =>
    exact decides_error (payloadInvalid_fault _) (by simp [SchemaType.Satisfies])

theorem boolean_decided : TypeDecided .boolean := by
  intro value _
  cases value with
  | bool b => exact decides_ok ⟨b, rfl⟩
  | null | num n | str s | arr items | obj fields =>
    exact decides_error (payloadInvalid_fault _) (by simp [SchemaType.Satisfies])

theorem null_decided : TypeDecided .null := by
  intro value _
  cases value with
  | null => exact decides_ok rfl
  | bool b | num n | str s | arr items | obj fields =>
    exact decides_error (payloadInvalid_fault _) (by simp [SchemaType.Satisfies])

theorem unspecified_decided : TypeDecided .unspecified := by
  intro value _
  exact decides_ok trivial

theorem schema_decided (schema : Schema) : SchemaDecided schema :=
  @Schema.inductOn SchemaDecided TypeDecided
    ⟨node_decided, unspecified_decided, object_decided, array_decided, string_decided,
      integer_decided, number_decided, boolean_decided, null_decided⟩ schema

end Agreement

section Samples

def sampleEngine : PatternEngine where
  compile _ := none
  floatText _ := []

def fieldDocument (child : List (Str × Json)) : SchemaDocument :=
  [(lit "type", .str (lit "object")), (lit "additionalProperties", .bool false),
    (lit "required", .arr [.str (lit "field")]),
    (lit "properties", .obj [(lit "field", .obj child)])]

def fieldSchema (child : Schema) : Schema :=
  .mk [] none none (.object [lit "field"] [(lit "field", child)])

def constChild (c : Json) : Schema := .mk [] (some c) none .unspecified

def integerChild : Schema := .mk [] none none (.integer none none)

def fieldPayload (v : Json) : Json := .obj [(lit "field", v)]

theorem fieldSchema_validates {child : Schema} {v : Json} :
    (fieldSchema child).validatePayload (fieldPayload v) = .ok () ↔ child.validatePayload v = .ok () := by
  rw [fieldSchema, Schema.validatePayload_eq_ok, fieldPayload, SchemaType.validatePayload]
  simp [bind_eq_ok, exists_unit, Schema.countMatches, checkEach, Schema.validateProperty]

theorem fieldSchema_satisfies {r : SchemaReading} {child : Schema} {v : Json} :
    (fieldSchema child).Satisfies r (fieldPayload v) ↔ child.Satisfies r v := by
  simp [fieldSchema, fieldPayload, Schema.Satisfies, SchemaType.Satisfies, Schema.PropertySatisfied]

theorem constChild_validates {c v : Json} :
    (constChild c).validatePayload v = .ok () ↔ frozenEq v c = true := by
  rw [constChild, Schema.validatePayload_eq_ok]
  simp [Schema.countMatches, SchemaType.validatePayload]

theorem constChild_satisfies {r : SchemaReading} {c v : Json} :
    (constChild c).Satisfies r v ↔ sameValue v c = true := by
  simp [constChild, Schema.Satisfies, SchemaType.Satisfies]

theorem fieldSchema_clear {child : Schema} {v : Json} (h : child.Clear v) :
    (fieldSchema child).Clear (fieldPayload v) := by
  refine ⟨trivial, ?_, ?_, ?_⟩
  · rintro c ⟨⟩
  · rintro l ⟨⟩
  · intro f hf
    obtain rfl := List.mem_singleton.mp hf
    exact ⟨fun _ => h, trivial⟩

theorem constChild_clear {c v : Json} (h : comparable v c = true) : (constChild c).Clear v := by
  refine ⟨trivial, ?_, ?_, ?_⟩
  · rintro d hd
    cases hd
    exact h
  · rintro l ⟨⟩
  · show SchemaType.Clear .unspecified v
    simp [SchemaType.Clear]

def jsonOne : Json := jsonInt 1

end Samples

end TraceBackedMemory
