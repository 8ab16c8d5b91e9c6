import SourceosBoot.Shared.Json
import SourceosBoot.Shared.Regex

set_option autoImplicit false

-- `valid` decides the keywords as JSON Schema defines them; `Satisfies` is the same, keyword by
-- keyword.

inductive Additional (Schema : Type)
  | absent
  | allowed
  | forbidden
  | schema (schema : Schema)

/-- `^body`, or `^body$`. -/
structure Pattern where
  body : Regex
  toEnd : Bool

def Pattern.search (pattern : Pattern) (text : String) : Bool :=
  if pattern.toEnd then pattern.body.matchesWhole text else pattern.body.matchesStart text

/-- A keyword that is absent has the value given here as its default. -/
structure Schema where
  type : Option (List String) := none
  const : Option Json := none
  enum : Option (List Json) := none
  required : List String := []
  properties : List (String × Schema) := []
  additionalProperties : Additional Schema := .absent
  items : Option Schema := none
  pattern : Option Pattern := none
  minLength : Nat := 0
  minItems : Nat := 0
  uniqueItems : Bool := false
  minimum : Option Int := none
  maximum : Option Int := none
  allOf : List Schema := []
  anyOf : List Schema := []
  not : Option Schema := none
  ifThen : Option (Schema × Schema) := none

namespace Schema

def hasType (name : String) : Json → Bool
  | .null => name = "null"
  | .bool _ => name = "boolean"
  | .int _ => name = "integer" ∨ name = "number"
  | .float value _ => name = "number" ∨ (name = "integer" ∧ value.den = 1)
  | .str _ => name = "string"
  | .arr _ => name = "array"
  | .obj _ => name = "object"

def typeOk (type : Option (List String)) (value : Json) : Bool :=
  type.all fun names => names.any fun name => hasType name value

def constOk (const : Option Json) (value : Json) : Bool :=
  match const with
  | none => true
  | some expected => Json.jsonEq expected value

def enumOk (enum : Option (List Json)) (value : Json) : Bool :=
  match enum with
  | none => true
  | some choices => choices.any fun choice => Json.jsonEq choice value

def requiredOk (required : List String) : Json → Bool
  | .obj members => required.all fun key => (Json.lookup key members).isSome
  | _ => true

def patternOk (pattern : Option Pattern) (value : Json) : Bool :=
  match pattern, value with
  | some pattern, .str text => pattern.search text
  | _, _ => true

def minLengthOk (least : Nat) : Json → Bool
  | .str text => least ≤ text.length
  | _ => true

def distinct : List Json → Bool
  | [] => true
  | item :: rest => rest.all (fun other => !Json.jsonEq item other) && distinct rest

def arrayOk (minItems : Nat) (uniqueItems : Bool) : Json → Bool
  | .arr items => minItems ≤ items.length && (!uniqueItems || distinct items)
  | _ => true

def rangeOk (minimum maximum : Option Int) (value : Json) : Bool :=
  match Json.number false value with
  | none => true
  | some number => (minimum.all fun least => (least : Rat) ≤ number) &&
      maximum.all fun most => number ≤ (most : Rat)

def membersBeside (names : List String) : Json → List (String × Json)
  | .obj members => members.filter fun member => member.1 ∉ names
  | _ => []

mutual

def valid : Schema → Json → Bool
  | ⟨type, const, enum, required, properties, additionalProperties, items, pattern, minLength,
      minItems, uniqueItems, minimum, maximum, allOf, anyOf, not, ifThen⟩, value =>
    typeOk type value && constOk const value && enumOk enum value && requiredOk required value &&
    patternOk pattern value && minLengthOk minLength value &&
    arrayOk minItems uniqueItems value && rangeOk minimum maximum value &&
    propertiesValid properties value &&
    additionalValid additionalProperties (membersBeside (properties.map Prod.fst) value) &&
    itemsValid items value && allValid allOf value && (anyOf.isEmpty || anyValid anyOf value) &&
    notValid not value && ifThenValid ifThen value

def propertiesValid : List (String × Schema) → Json → Bool
  | [], _ => true
  | (key, child) :: rest, value =>
    (match value.get? key with
    | none => true
    | some item => child.valid item) && propertiesValid rest value

def additionalValid : Additional Schema → List (String × Json) → Bool
  | .absent, _ | .allowed, _ => true
  | .forbidden, members => members.isEmpty
  | .schema child, members => members.all fun member => child.valid member.2

def itemsValid : Option Schema → Json → Bool
  | none, _ => true
  | some child, value => match value with
    | .arr items => items.all fun item => child.valid item
    | _ => true

def allValid : List Schema → Json → Bool
  | [], _ => true
  | schema :: rest, value => schema.valid value && allValid rest value

def anyValid : List Schema → Json → Bool
  | [], _ => false
  | schema :: rest, value => schema.valid value || anyValid rest value

def notValid : Option Schema → Json → Bool
  | none, _ => true
  | some excluded, value => !excluded.valid value

def ifThenValid : Option (Schema × Schema) → Json → Bool
  | none, _ => true
  | some (condition, consequence), value => !condition.valid value || consequence.valid value

end

theorem valid_eq (schema : Schema) (value : Json) :
    schema.valid value =
      (typeOk schema.type value && constOk schema.const value && enumOk schema.enum value &&
      requiredOk schema.required value && patternOk schema.pattern value &&
      minLengthOk schema.minLength value &&
      arrayOk schema.minItems schema.uniqueItems value &&
      rangeOk schema.minimum schema.maximum value &&
      propertiesValid schema.properties value &&
      additionalValid schema.additionalProperties
        (membersBeside (schema.properties.map Prod.fst) value) &&
      itemsValid schema.items value && allValid schema.allOf value &&
      (schema.anyOf.isEmpty || anyValid schema.anyOf value) &&
      notValid schema.not value && ifThenValid schema.ifThen value) := by
  cases schema
  rw [valid]

@[simp] theorem constOk_some (expected value : Json) :
    constOk (some expected) value = Json.jsonEq expected value := rfl

@[simp] theorem requiredOk_obj (required : List String) (members : List (String × Json)) :
    requiredOk required (.obj members) =
      required.all fun key => (Json.lookup key members).isSome := rfl

@[simp] theorem typeOk_absent (value : Json) : typeOk none value = true := rfl

@[simp] theorem constOk_absent (value : Json) : constOk none value = true := rfl

@[simp] theorem enumOk_absent (value : Json) : enumOk none value = true := rfl

@[simp] theorem requiredOk_absent (value : Json) : requiredOk [] value = true := by
  cases value <;> rfl

@[simp] theorem patternOk_absent (value : Json) : patternOk none value = true := rfl

@[simp] theorem minLengthOk_absent (value : Json) : minLengthOk 0 value = true := by
  cases value <;> simp [minLengthOk]

@[simp] theorem arrayOk_absent (value : Json) : arrayOk 0 false value = true := by
  cases value <;> simp [arrayOk]

@[simp] theorem rangeOk_absent (value : Json) : rangeOk none none value = true := by
  unfold rangeOk
  cases Json.number false value <;> rfl

@[simp] theorem propertiesValid_absent (value : Json) : propertiesValid [] value = true := rfl

@[simp] theorem additionalValid_absent (members : List (String × Json)) :
    additionalValid .absent members = true := rfl

@[simp] theorem itemsValid_absent (value : Json) : itemsValid none value = true := rfl

@[simp] theorem allValid_absent (value : Json) : allValid [] value = true := rfl

@[simp] theorem notValid_absent (value : Json) : notValid none value = true := rfl

@[simp] theorem ifThenValid_absent (value : Json) : ifThenValid none value = true := rfl

theorem propertiesValid_iff (properties : List (String × Schema)) (value : Json) :
    propertiesValid properties value = true ↔ ∀ key child, (key, child) ∈ properties →
      ∀ item, value.get? key = some item → child.valid item = true := by
  induction properties with
  | nil => simp [propertiesValid]
  | cons property rest ih =>
    obtain ⟨name, schema⟩ := property
    simp only [propertiesValid, Bool.and_eq_true, ih, List.mem_cons]
    constructor
    · rintro ⟨first, later⟩ key child (same | listed) item found
      · cases same
        simpa [found] using first
      · exact later key child listed item found
    · intro each
      refine ⟨?_, fun key child listed => each key child (.inr listed)⟩
      cases found : value.get? name with
      | none => rfl
      | some item => exact each name schema (.inl rfl) item found

theorem additionalValid_forbidden (names : List String) (members : List (String × Json)) :
    additionalValid .forbidden (membersBeside names (.obj members)) = true ↔
      ∀ member ∈ members, member.1 ∈ names := by
  simp [additionalValid, membersBeside]

theorem allValid_iff (schemas : List Schema) (value : Json) :
    allValid schemas value = true ↔ ∀ schema ∈ schemas, schema.valid value = true := by
  induction schemas with
  | nil => simp [allValid]
  | cons schema rest ih => simp [allValid, ih]

theorem anyValid_iff (schemas : List Schema) (value : Json) :
    anyValid schemas value = true ↔ ∃ schema ∈ schemas, schema.valid value = true := by
  induction schemas with
  | nil => simp [anyValid]
  | cons schema rest ih => simp [anyValid, ih]

theorem type_valid (names : List String) (value : Json) :
    valid { type := some names } value = typeOk (some names) value := by
  rw [valid_eq]
  simp

theorem enum_valid (choices : List Json) (value : Json) :
    valid { enum := some choices } value = enumOk (some choices) value := by
  rw [valid_eq]
  simp

theorem const_valid (expected value : Json) :
    valid { const := some expected } value = Json.jsonEq expected value := by
  rw [valid_eq]
  simp

theorem number_valid (number least most : Int) (above : least ≤ number) (below : number ≤ most) :
    valid { type := some ["integer"], minimum := some least, maximum := some most }
      (.int number) = true := by
  have above : (least : Rat) ≤ number := Rat.intCast_le_intCast.mpr above
  have below : (number : Rat) ≤ most := Rat.intCast_le_intCast.mpr below
  rw [valid_eq]
  simp [typeOk, hasType, rangeOk, Json.number, above, below]

theorem text_valid (text : String) :
    valid { type := some ["string"], minLength := 1 } (.str text) = true ↔ text ≠ "" := by
  rw [valid_eq]
  simp [typeOk, hasType, minLengthOk, Nat.one_le_iff_ne_zero]

theorem pattern_valid (pattern : Pattern) (text : String) :
    valid { type := some ["string"], pattern := some pattern } (.str text) = true ↔
      pattern.search text = true := by
  rw [valid_eq]
  simp [typeOk, hasType, patternOk]

theorem array_valid (child : Schema) (minItems : Nat) (uniqueItems : Bool) (values : List Json) :
    valid {
      type := some ["array"]
      items := some child
      minItems := minItems
      uniqueItems := uniqueItems } (.arr values) =
      (arrayOk minItems uniqueItems (.arr values) && values.all child.valid) := by
  rw [valid_eq]
  simp [typeOk, hasType, itemsValid]

theorem list_valid (child : Schema) (values : List Json)
    (each : ∀ value ∈ values, child.valid value = true) :
    valid { type := some ["array"], items := some child } (.arr values) = true := by
  rw [array_valid, List.all_eq_true.mpr each, arrayOk_absent]
  rfl

theorem items_valid (child : Schema) (values : List Json) :
    valid { items := some child } (.arr values) = values.all child.valid := by
  rw [valid_eq]
  simp [itemsValid]

theorem members_valid (properties : List (String × Schema)) (required : List String)
    (members : List (String × Json)) :
    valid { properties := properties, required := required } (.obj members) =
      (required.all (fun key => (Json.lookup key members).isSome) &&
        propertiesValid properties (.obj members)) := by
  rw [valid_eq]
  simp

theorem ifThen_valid (condition consequence : Schema) (value : Json) :
    valid { ifThen := some (condition, consequence) } value = true ↔
      (condition.valid value = true → consequence.valid value = true) := by
  rw [valid_eq]
  cases holds : condition.valid value <;> simp [ifThenValid, holds]

structure Satisfies (schema : Schema) (value : Json) : Prop where
  type : typeOk schema.type value = true
  const : constOk schema.const value = true
  enum : enumOk schema.enum value = true
  required : requiredOk schema.required value = true
  pattern : patternOk schema.pattern value = true
  minLength : minLengthOk schema.minLength value = true
  array : arrayOk schema.minItems schema.uniqueItems value = true
  range : rangeOk schema.minimum schema.maximum value = true
  properties : ∀ key child, (key, child) ∈ schema.properties →
    ∀ item, value.get? key = some item → child.valid item = true
  additionalProperties : additionalValid schema.additionalProperties
    (membersBeside (schema.properties.map Prod.fst) value) = true
  items : ∀ child, schema.items = some child → ∀ items, value = .arr items →
    ∀ item ∈ items, child.valid item = true
  allOf : ∀ part ∈ schema.allOf, part.valid value = true
  anyOf : schema.anyOf ≠ [] → ∃ part ∈ schema.anyOf, part.valid value = true
  not : ∀ excluded, schema.not = some excluded → excluded.valid value = false
  ifThen : ∀ condition consequence, schema.ifThen = some (condition, consequence) →
    condition.valid value = true → consequence.valid value = true

theorem valid_iff (schema : Schema) (value : Json) :
    schema.valid value = true ↔ schema.Satisfies value := by
  rw [valid_eq]
  simp only [Bool.and_eq_true, Bool.or_eq_true, propertiesValid_iff, allValid_iff, anyValid_iff]
  constructor
  · rintro ⟨⟨⟨⟨⟨⟨⟨⟨⟨⟨⟨⟨⟨⟨type, const⟩, enum⟩, required⟩, pattern⟩, minLength⟩, array⟩, range⟩,
      properties⟩, extra⟩, items⟩, allOf⟩, anyOf⟩, excluded⟩, branch⟩
    refine ⟨type, const, enum, required, pattern, minLength, array, range, properties, extra, ?_,
      allOf, ?_, ?_, ?_⟩
    · rintro child named members rfl
      simpa [named, itemsValid] using items
    · intro listed
      exact anyOf.resolve_left (by simpa using listed)
    · intro child named
      simpa [named, notValid] using excluded
    · intro condition consequence named holds
      simpa [named, holds, ifThenValid] using branch
  · intro satisfies
    refine ⟨⟨⟨⟨⟨⟨⟨⟨⟨⟨⟨⟨⟨⟨satisfies.type, satisfies.const⟩, satisfies.enum⟩, satisfies.required⟩,
      satisfies.pattern⟩, satisfies.minLength⟩, satisfies.array⟩, satisfies.range⟩,
      satisfies.properties⟩, satisfies.additionalProperties⟩, ?_⟩, satisfies.allOf⟩, ?_⟩, ?_⟩, ?_⟩
    · cases named : schema.items with
      | none => rfl
      | some child => cases value with
        | arr listed => simpa [itemsValid] using satisfies.items child named listed rfl
        | _ => rfl
    · by_cases listed : schema.anyOf = []
      · exact .inl (by simp [listed])
      · exact .inr (satisfies.anyOf listed)
    · cases named : schema.not with
      | none => rfl
      | some excluded => simpa [notValid] using satisfies.not excluded named
    · cases named : schema.ifThen with
      | none => rfl
      | some branch =>
        have follows := satisfies.ifThen branch.1 branch.2 named
        cases holds : branch.1.valid value
        · simp [ifThenValid, holds]
        · simp [ifThenValid, follows holds]

def openObject (required : List String) (properties : List (String × Schema)) : Schema where
  type := some ["object"]
  required := required
  properties := properties

def closedObject (required : List String) (properties : List (String × Schema)) : Schema where
  type := some ["object"]
  additionalProperties := .forbidden
  required := required
  properties := properties

theorem unconstrained_valid (value : Json) : valid {} value = true := by
  rw [valid_eq]
  simp

theorem openObject_valid (required : List String) (properties : List (String × Schema))
    (value : Json) :
    (openObject required properties).valid value =
      (hasType "object" value && requiredOk required value && propertiesValid properties value) := by
  simp [valid_eq, openObject, typeOk]

theorem closedObject_valid (required : List String) (properties : List (String × Schema))
    (value : Json) :
    (closedObject required properties).valid value =
      (hasType "object" value && requiredOk required value && propertiesValid properties value &&
        additionalValid .forbidden (membersBeside (properties.map Prod.fst) value)) := by
  simp [valid_eq, closedObject, typeOk]

def Holds (members : List (String × Json)) (key : String) (child : Schema) : Prop :=
  ∃ item, Json.lookup key members = some item ∧ child.valid item = true

def Fits (members : List (String × Json)) (property : String × Schema) : Prop :=
  ∀ item, Json.lookup property.1 members = some item → property.2.valid item = true

section Members

variable {members : List (String × Json)} {key : String} {child : Schema}

theorem Holds.present (holds : Holds members key child) :
    (Json.lookup key members).isSome = true := by
  obtain ⟨item, found, -⟩ := holds
  rw [found]
  rfl

theorem Holds.fits (holds : Holds members key child) : Fits members (key, child) := by
  obtain ⟨item, found, valid⟩ := holds
  intro other listed
  rwa [Option.some.inj (listed.symm.trans found)]

theorem fits_of_found {item : Json} (found : Json.lookup key members = some item)
    (valid : child.valid item = true) : Fits members (key, child) :=
  Holds.fits ⟨item, found, valid⟩

theorem fits_of_absent (absent : Json.lookup key members = none) : Fits members (key, child) :=
  fun item found => by simp [absent] at found

theorem unconstrained_fits (members : List (String × Json)) (key : String) :
    Fits members (key, {}) := fun item _ => unconstrained_valid item

theorem openObject_of_fits {required : List String} {properties : List (String × Schema)}
    (fits : ∀ property ∈ properties, Fits members property)
    (present : ∀ key ∈ required, (Json.lookup key members).isSome = true) :
    (openObject required properties).valid (.obj members) = true := by
  have properties := (propertiesValid_iff properties (.obj members)).mpr
    fun key child listed item found => fits (key, child) listed item found
  rw [openObject_valid, requiredOk_obj, List.all_eq_true.mpr present, properties]
  rfl

end Members

/-- Together the two parts ask what the whole asks. -/
def Splits (whole left right : Schema) : Prop :=
  ∀ value, whole.valid value = (left.valid value && right.valid value)

theorem Splits.left (schema : Schema) : Splits schema schema {} := fun value => by
  rw [unconstrained_valid, Bool.and_true]

theorem Splits.right (schema : Schema) : Splits schema {} schema := fun value => by
  rw [unconstrained_valid, Bool.true_and]

theorem Splits.list {whole left right : Schema} (item : Splits whole left right)
    (minItems : Nat) :
    Splits { type := some ["array"], items := some whole, minItems := minItems }
      { type := some ["array"], items := some left, minItems := minItems }
      { items := some right } := by
  intro value
  cases value with
  | arr values =>
    have each : values.all whole.valid = (values.all left.valid && values.all right.valid) := by
      rw [List.all_congr rfl item, Bool.eq_iff_iff]
      simp only [Bool.and_eq_true, List.all_eq_true, forall_and]
    rw [array_valid, array_valid, items_valid, each, Bool.and_assoc]
  | _ => simp [valid_eq, typeOk, hasType]

inductive SplitsEach :
    List (String × Schema) → List (String × Schema) → List (String × Schema) → Prop
  | nil : SplitsEach [] [] []
  | cons {key : String} {whole left right : Schema} {wholes lefts rights : List (String × Schema)}
      (first : Splits whole left right) (rest : SplitsEach wholes lefts rights) :
      SplitsEach ((key, whole) :: wholes) ((key, left) :: lefts) ((key, right) :: rights)

section SplitsEach

variable {wholes lefts rights : List (String × Schema)} (each : SplitsEach wholes lefts rights)
include each

theorem SplitsEach.names : wholes.map Prod.fst = rights.map Prod.fst := by
  induction each with
  | nil => rfl
  | cons _ _ ih => rw [List.map_cons, List.map_cons, ih]

theorem SplitsEach.propertiesValid (value : Json) :
    Schema.propertiesValid wholes value =
      (Schema.propertiesValid lefts value && Schema.propertiesValid rights value) := by
  induction each with
  | nil => rfl
  | @cons key _ _ _ _ _ _ first _ ih =>
    simp only [Schema.propertiesValid, ih]
    cases value.get? key with
    | none => rfl
    | some item =>
      simp only [first item]
      ac_rfl

theorem Splits.object (required : List String) :
    Splits (closedObject required wholes) (openObject required lefts) (closedObject [] rights) := by
  intro value
  rw [closedObject_valid, openObject_valid, closedObject_valid, each.propertiesValid, each.names,
    requiredOk_absent]
  cases hasType "object" value
  · rfl
  · simp only [Bool.true_and]
    ac_rfl

end SplitsEach

end Schema
