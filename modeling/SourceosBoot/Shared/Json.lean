import Mathlib.Data.List.Forall2
import Mathlib.Data.Rat.Defs
import SourceosBoot.Shared.Python

set_option autoImplicit false

-- An object is the list of its members in insertion order. Two equalities matter: Python's, for
-- which `True` is 1, and JSON's, for which it is not.

/-- A floating-point number carries the text `repr` shows for it. -/
inductive Json
  | null
  | bool (value : Bool)
  | int (value : Int)
  | float (value : Rat) (shown : String)
  | str (text : String)
  | arr (items : List Json)
  | obj (members : List (String × Json))

namespace Json

def lookup (key : String) : List (String × Json) → Option Json
  | [] => none
  | (name, value) :: rest => if name = key then some value else lookup key rest

def get? (value : Json) (key : String) : Option Json :=
  match value with
  | obj members => lookup key members
  | _ => none

def memberOrNull (value : Json) (key : String) : Json := (value.get? key).getD null

theorem lookup_mem {key : String} {value : Json} {members : List (String × Json)}
    (found : lookup key members = some value) : (key, value) ∈ members := by
  induction members with
  | nil => simp [lookup] at found
  | cons member rest ih =>
    obtain ⟨name, item⟩ := member
    by_cases same : name = key
    · simp_all [lookup]
    · exact List.mem_cons_of_mem _ (ih (by simpa [lookup, same] using found))

theorem lookup_of_mem {key : String} {value : Json} {members : List (String × Json)}
    (named : (members.map Prod.fst).Nodup) (listed : (key, value) ∈ members) :
    lookup key members = some value := by
  induction members with
  | nil => cases listed
  | cons member rest ih =>
    rw [List.map_cons, List.nodup_cons] at named
    rcases List.mem_cons.mp listed with rfl | later
    · simp [lookup]
    · have other : member.1 ≠ key := by
        rintro rfl
        exact named.1 (List.mem_map.mpr ⟨_, later, rfl⟩)
      simpa [lookup, other] using ih named.2 later

theorem lookup_append (key : String) (front back : List (String × Json)) :
    lookup key (front ++ back) = (lookup key front).or (lookup key back) := by
  induction front with
  | nil => rfl
  | cons member rest ih =>
    by_cases same : member.1 = key <;> simp [lookup, same, ih]

theorem lookup_isSome (key : String) (members : List (String × Json)) :
    (lookup key members).isSome = true ↔ key ∈ members.map Prod.fst := by
  induction members with
  | nil => simp [lookup]
  | cons member rest ih =>
    by_cases same : member.1 = key
    · simp [lookup, same]
    · simp only [lookup, same, if_false, ih, List.map_cons, List.mem_cons, Ne.symm same, false_or]

theorem lookup_of_getD {key : String} {members : List (String × Json)} {default value : Json}
    (read : (lookup key members).getD default = value) (given : value ≠ default) :
    lookup key members = some value := by
  cases found : lookup key members with
  | none => exact absurd (by simpa [found] using read.symm) given
  | some item => simpa [found] using read

def assign (key : String) (value : Json) : List (String × Json) → List (String × Json)
  | [] => [(key, value)]
  | (name, item) :: rest =>
    if name = key then (name, value) :: rest else (name, item) :: assign key value rest

theorem lookup_assign (key other : String) (value : Json) (members : List (String × Json)) :
    lookup other (assign key value members) =
      if key = other then some value else lookup other members := by
  induction members with
  | nil => rfl
  | cons member rest ih =>
    obtain ⟨name, item⟩ := member
    by_cases assigned : name = key
    · subst assigned
      by_cases asked : name = other <;> simp [assign, lookup, asked]
    · by_cases asked : name = other
      · subst asked
        simp [assign, lookup, assigned, Ne.symm assigned]
      · simp [assign, lookup, assigned, asked, ih]

/-- No floating-point number at any depth, and no key of an object stands twice. -/
inductive Plain : Json → Prop
  | null : Plain null
  | bool (value : Bool) : Plain (bool value)
  | int (value : Int) : Plain (int value)
  | str (text : String) : Plain (str text)
  | arr {items : List Json} (each : ∀ item ∈ items, Plain item) : Plain (arr items)
  | obj {members : List (String × Json)} (named : (members.map Prod.fst).Nodup)
      (each : ∀ member ∈ members, Plain member.2) : Plain (obj members)

-- The number a value stands for; a truth value does only where it is coerced.
def number (coerce : Bool) : Json → Option Rat
  | bool value => if coerce then some (if value then 1 else 0) else none
  | int value => some value
  | float value _ => some value
  | _ => none

mutual

def same (coerce : Bool) : Json → Json → Bool
  | null, other => match other with
    | null => true
    | _ => false
  | bool value, other => match other with
    | bool truth => value = truth
    | other => coerce && number coerce (bool value) = number coerce other
  | int value, other => number coerce other = some (value : Rat)
  | float value _, other => number coerce other = some value
  | str text, other => match other with
    | str letters => text = letters
    | _ => false
  | arr items, other => match other with
    | arr others => sameItems coerce items others
    | _ => false
  | obj members, other => match other with
    | obj others => members.length = others.length && sameMembers coerce members others
    | _ => false

def sameItems (coerce : Bool) : List Json → List Json → Bool
  | [], [] => true
  | item :: rest, other :: others => same coerce item other && sameItems coerce rest others
  | _, _ => false

def sameMembers (coerce : Bool) : List (String × Json) → List (String × Json) → Bool
  | [], _ => true
  | (key, value) :: rest, others =>
    (match lookup key others with
    | some other => same coerce value other
    | none => false) && sameMembers coerce rest others

end

theorem sameItems_iff (coerce : Bool) (items others : List Json) :
    sameItems coerce items others = true ↔
      List.Forall₂ (fun item other => same coerce item other = true) items others := by
  induction items generalizing others with
  | nil => cases others <;> simp [sameItems]
  | cons item rest ih => cases others <;> simp [sameItems, ih]

theorem sameMembers_iff (coerce : Bool) (members others : List (String × Json)) :
    sameMembers coerce members others = true ↔ ∀ member ∈ members,
      ∃ other, lookup member.1 others = some other ∧ same coerce member.2 other = true := by
  induction members with
  | nil => simp [sameMembers]
  | cons member rest ih =>
    cases found : lookup member.1 others <;> simp [sameMembers, found, ih]

def pyEq (left right : Json) : Bool := same true left right

/-- Equality of JSON Schema: a truth value is no number. -/
def jsonEq (left right : Json) : Bool := same false left right

@[simp] theorem same_str (coerce : Bool) (text : String) (other : Json) :
    same coerce (str text) other = true ↔ other = str text := by
  cases other <;> simp [same, eq_comm]

@[simp] theorem same_null (coerce : Bool) (other : Json) :
    same coerce null other = true ↔ other = null := by
  cases other <;> simp [same]

@[simp] theorem pyEq_str (value : Json) (text : String) :
    pyEq value (str text) = true ↔ value = str text := by
  cases value <;> simp [pyEq, same, number]

@[simp] theorem jsonEq_bool (value : Bool) (other : Json) :
    jsonEq (bool value) other = true ↔ other = bool value := by
  cases other <;> simp [jsonEq, same, eq_comm]

def pyType : Json → String
  | null => "NoneType"
  | bool _ => "bool"
  | int _ => "int"
  | float _ _ => "float"
  | str _ => "str"
  | arr _ => "list"
  | obj _ => "dict"

def truthy : Json → Bool
  | null => false
  | bool value => value
  | int value => value ≠ 0
  | float value _ => value ≠ 0
  | str text => text ≠ ""
  | arr items => !items.isEmpty
  | obj members => !members.isEmpty

mutual

def repr : Json → String
  | null => "None"
  | bool value => if value then "True" else "False"
  | int value => toString value
  | float _ shown => shown
  | str text => Python.repr text
  | arr items => "[" ++ ", ".intercalate (reprItems items) ++ "]"
  | obj members => "\x7b" ++ ", ".intercalate (reprMembers members) ++ "\x7d"

def reprItems : List Json → List String
  | [] => []
  | item :: rest => repr item :: reprItems rest

def reprMembers : List (String × Json) → List String
  | [] => []
  | (key, value) :: rest => (Python.repr key ++ ": " ++ repr value) :: reprMembers rest

end

open Python

def getItem (value : Json) (key : String) : Except Raised Json :=
  match value with
  | obj members => match lookup key members with
    | some item => .ok item
    | none => raise .keyError (Python.repr key)
  | arr _ => raise .typeError "list indices must be integers or slices, not str"
  | str _ => raise .typeError "string indices must be integers, not 'str'"
  | _ => raise .typeError s!"'{value.pyType}' object is not subscriptable"

def getD (value : Json) (key : String) (default : Json) : Except Raised Json :=
  match value with
  | obj members => .ok ((lookup key members).getD default)
  | _ => raise .attributeError s!"'{value.pyType}' object has no attribute 'get'"

def isBool (truth : Bool) : Json → Bool
  | bool value => value = truth
  | _ => false

def hashable : Json → Bool
  | arr _ | obj _ => false
  | _ => true

@[simp] theorem getItem_obj (members : List (String × Json)) (key : String) (item : Json) :
    (obj members).getItem key = .ok item ↔ lookup key members = some item := by
  cases found : lookup key members <;> simp [getItem, found, raise]

@[simp] theorem isBool_iff (truth : Bool) (value : Json) :
    value.isBool truth = true ↔ value = bool truth := by
  cases value <;> simp [isBool]

theorem getD_ok {value default item : Json} {key : String}
    (returned : value.getD key default = .ok item) : item = (value.get? key).getD default := by
  cases value <;> simp_all [getD, get?, raise]

end Json
