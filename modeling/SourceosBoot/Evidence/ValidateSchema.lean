import Mathlib.Data.List.Dedup
import SourceosBoot.Shared.JsonSchema
import SourceosBoot.Shared.Text

set_option autoImplicit false

-- `validate_schema` knows const, enum, type, required, properties, additionalProperties and items;
-- the other keywords of a schema it passes over.

namespace SourceosBoot.Evidence

open Python

def validationError : ExceptionClass := .user "ValidationError"

def failWhen (bad : Prop) [Decidable bad] (message : String) : Except Raised Unit :=
  raiseWhen bad validationError message

def jsonTypeName : Json → String
  | .null => "null"
  | .bool _ => "boolean"
  | .int _ => "integer"
  | .float _ _ => "number"
  | .str _ => "string"
  | .arr _ => "array"
  | .obj _ => "object"

def typeMatches (value : Json) (expected : String) : Bool :=
  let actual := jsonTypeName value
  if expected = "number" then actual = "integer" ∨ actual = "number" else actual = expected

def checkConst (expected : Option Json) (value : Json) (path : String) : Except Raised Unit :=
  match expected with
  | none => .ok ()
  | some const => failWhen (Json.pyEq value const = false)
      s!"{path}: expected const {const.repr}, got {value.repr}"

def checkEnum (expected : Option (List Json)) (value : Json) (path : String) :
    Except Raised Unit :=
  match expected with
  | none => .ok ()
  | some choices => failWhen (choices.any (fun choice => Json.pyEq value choice) = false)
      s!"{path}: {value.repr} not in enum {(Json.arr choices).repr}"

def checkType (expected : Option (List String)) (value : Json) (path : String) :
    Except Raised Unit :=
  match expected with
  | none => .ok ()
  | some names => failWhen (names.any (typeMatches value) = false)
      (s!"{path}: expected type {(Json.arr (names.map .str)).repr}, " ++
        s!"got {Python.repr (jsonTypeName value)}")

def checkRequired (required : List String) (members : List (String × Json)) (path : String) :
    Except Raised Unit :=
  required.forM fun key => failWhen (Json.lookup key members = none)
    s!"{path}: missing required property {Python.repr key}"

def extraNames (names : List String) (members : List (String × Json)) : List String :=
  -- `sorted(set(value) - set(properties))`.
  sorted id ((members.map Prod.fst).filter (· ∉ names)).dedup

def checkExtra (additional : Additional Schema) (names : List String)
    (members : List (String × Json)) (path : String) : Except Raised Unit :=
  match additional with
  | .forbidden => failWhen (extraNames names members ≠ [])
      s!"{path}: unexpected properties {(Json.arr ((extraNames names members).map .str)).repr}"
  | _ => .ok ()

mutual

def validateSchema : Schema → Json → String → Except Raised Unit
  | ⟨type, const, enum, required, properties, additionalProperties, items, _, _, _, _, _, _, _, _,
      _, _⟩, value, path => do
    checkConst const value path
    checkEnum enum value path
    checkType type value path
    match value with
    | .obj members =>
      checkRequired required members path
      checkExtra additionalProperties (properties.map Prod.fst) members path
      members.forM fun member =>
        if member.1 ∈ properties.map Prod.fst then
          validateProperty properties member.1 member.2 s!"{path}.{member.1}"
        else validateAdditional additionalProperties member.2 s!"{path}.{member.1}"
    | .arr elements =>
      elements.zipIdx.forM fun element => validateItem items element.1 s!"{path}[{element.2}]"
    | _ => .ok ()

-- `properties.get(key)`, applied to the value.
def validateProperty : List (String × Schema) → String → Json → String → Except Raised Unit
  | [], _, _, _ => .ok ()
  | (name, child) :: rest, key, value, path =>
    if name = key then validateSchema child value path else validateProperty rest key value path

def validateAdditional : Additional Schema → Json → String → Except Raised Unit
  | .schema child, value, path => validateSchema child value path
  | _, _, _ => .ok ()

def validateItem : Option Schema → Json → String → Except Raised Unit
  | some child, value, path => validateSchema child value path
  | none, _, _ => .ok ()

end

@[simp] theorem failWhen_ok (bad : Prop) [Decidable bad] (message : String) :
    failWhen bad message = .ok () ↔ ¬ bad := raiseWhen_ok bad validationError message

theorem checkConst_ok (expected : Option Json) (value : Json) (path : String) :
    checkConst expected value path = .ok () ↔
      ∀ const ∈ expected, Json.pyEq value const = true := by
  cases expected <;> simp [checkConst]

theorem checkEnum_ok (expected : Option (List Json)) (value : Json) (path : String) :
    checkEnum expected value path = .ok () ↔
      ∀ choices ∈ expected, ∃ choice ∈ choices, Json.pyEq value choice = true := by
  cases expected <;> simp [checkEnum]

theorem checkType_ok (expected : Option (List String)) (value : Json) (path : String) :
    checkType expected value path = .ok () ↔
      ∀ names ∈ expected, ∃ name ∈ names, typeMatches value name = true := by
  cases expected <;> simp [checkType]

theorem checkRequired_ok (required : List String) (members : List (String × Json))
    (path : String) :
    checkRequired required members path = .ok () ↔
      ∀ key ∈ required, ∃ item, Json.lookup key members = some item := by
  rw [checkRequired, forM_ok]
  simp [← ne_eq, Option.ne_none_iff_exists']

theorem extraNames_nil (names : List String) (members : List (String × Json)) :
    extraNames names members = [] ↔ ∀ member ∈ members, member.1 ∈ names := by
  simp only [List.eq_nil_iff_forall_not_mem, extraNames, mem_sorted, List.mem_dedup,
    List.mem_filter, List.mem_map, decide_eq_true_eq]
  constructor
  · intro none member listed
    by_contra outside
    exact none member.1 ⟨⟨member, listed, rfl⟩, outside⟩
  · rintro inside _ ⟨⟨member, listed, rfl⟩, outside⟩
    exact outside (inside member listed)

theorem checkExtra_ok (names : List String) (members : List (String × Json)) (path : String) :
    checkExtra .forbidden names members path = .ok () ↔ ∀ member ∈ members, member.1 ∈ names := by
  rw [checkExtra, failWhen_ok, not_not, extraNames_nil]

theorem validateProperty_eq (properties : List (String × Schema)) (key : String) (child : Schema)
    (found : properties.lookup key = some child) (value : Json) (path : String) :
    validateProperty properties key value path = validateSchema child value path := by
  induction properties with
  | nil => simp at found
  | cons property rest ih =>
    obtain ⟨name, schema⟩ := property
    by_cases same : name = key
    · subst same
      simp_all [validateProperty]
    · have different : (key == name) = false := beq_false_of_ne (Ne.symm same)
      rw [validateProperty, if_neg same]
      exact ih (by simpa [List.lookup_cons, different] using found)

theorem validateSchema_eq (schema : Schema) (value : Json) (path : String) :
    validateSchema schema value path = (do
      checkConst schema.const value path
      checkEnum schema.enum value path
      checkType schema.type value path
      match value with
      | .obj members =>
        checkRequired schema.required members path
        checkExtra schema.additionalProperties (schema.properties.map Prod.fst) members path
        members.forM fun member =>
          if member.1 ∈ schema.properties.map Prod.fst then
            validateProperty schema.properties member.1 member.2 s!"{path}.{member.1}"
          else validateAdditional schema.additionalProperties member.2 s!"{path}.{member.1}"
      | .arr elements =>
        elements.zipIdx.forM fun element =>
          validateItem schema.items element.1 s!"{path}[{element.2}]"
      | _ => .ok ()) := by
  cases schema
  cases value <;> rw [validateSchema] <;> rintro _ ⟨⟩

section Accepted

variable {schema : Schema} {value : Json} {path : String}
  (accepted : validateSchema schema value path = .ok ())
include accepted

theorem accepted_const (expected : Json) (listed : schema.const = some expected) :
    Json.pyEq value expected = true := by
  rw [validateSchema_eq, then_ok, checkConst_ok] at accepted
  exact accepted.1 expected listed

theorem accepted_enum (choices : List Json) (listed : schema.enum = some choices) :
    ∃ choice ∈ choices, Json.pyEq value choice = true := by
  rw [validateSchema_eq, then_ok, then_ok, checkEnum_ok] at accepted
  exact accepted.2.1 choices listed

theorem accepted_type (names : List String) (listed : schema.type = some names) :
    ∃ name ∈ names, typeMatches value name = true := by
  rw [validateSchema_eq, then_ok, then_ok, then_ok, checkType_ok] at accepted
  exact accepted.2.2.1 names listed

theorem accepted_object (members : List (String × Json)) (object : value = .obj members) :
    checkRequired schema.required members path = .ok () ∧
    checkExtra schema.additionalProperties (schema.properties.map Prod.fst) members path = .ok () ∧
    ∀ member ∈ members,
      (if member.1 ∈ schema.properties.map Prod.fst then
        validateProperty schema.properties member.1 member.2 s!"{path}.{member.1}"
      else validateAdditional schema.additionalProperties member.2 s!"{path}.{member.1}") =
        .ok () := by
  subst object
  rw [validateSchema_eq, then_ok, then_ok, then_ok, then_ok, then_ok, forM_ok] at accepted
  exact accepted.2.2.2

theorem accepted_members (members : List (String × Json)) (object : value = .obj members) :
    (∀ key ∈ schema.required, ∃ item, Json.lookup key members = some item) ∧
    ∀ key child item, schema.properties.lookup key = some child →
      Json.lookup key members = some item →
      validateSchema child item s!"{path}.{key}" = .ok () := by
  obtain ⟨required, _, each⟩ := accepted_object accepted members object
  refine ⟨(checkRequired_ok _ _ _).mp required, fun key child item known found => ?_⟩
  have checked := each (key, item) (Json.lookup_mem found)
  obtain ⟨front, back, split, _⟩ := List.lookup_eq_some_iff.mp known
  rw [if_pos (by simp [split])] at checked
  rwa [validateProperty_eq _ _ _ known] at checked

theorem accepted_items (elements : List Json) (array : value = .arr elements) (child : Schema)
    (known : schema.items = some child) :
    ∀ item ∈ elements, ∃ place, validateSchema child item place = .ok () := by
  subst array
  rw [validateSchema_eq, then_ok, then_ok, then_ok, forM_ok, known] at accepted
  intro item listed
  obtain ⟨index, bound, rfl⟩ := List.mem_iff_getElem.mp listed
  exact ⟨_, accepted.2.2.2 (elements[index], index) (List.mk_mem_zipIdx_iff_getElem?.mpr
    (List.getElem?_eq_getElem bound))⟩

theorem accepted_member (object : schema.type = some ["object"]) (key : String)
    (required : key ∈ schema.required) (child : Schema)
    (known : schema.properties.lookup key = some child) :
    ∃ item, value.get? key = some item ∧ validateSchema child item s!"{path}.{key}" = .ok () := by
  obtain ⟨name, listed, matching⟩ := accepted_type accepted _ object
  rw [List.mem_singleton] at listed
  subst listed
  cases value with
  | obj members =>
    obtain ⟨present, each⟩ := accepted_members accepted members rfl
    obtain ⟨item, found⟩ := present key required
    exact ⟨item, found, each key child item known found⟩
  | _ => simp [typeMatches, jsonTypeName] at matching

end Accepted

end SourceosBoot.Evidence
