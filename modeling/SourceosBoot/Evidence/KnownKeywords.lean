import SourceosBoot.Evidence.ValidateSchema

set_option autoImplicit false

-- On a schema that uses no other keyword, and only texts as constants, what the interpreter accepts
-- is valid; and it accepts every valid value that holds no floating-point number.

namespace SourceosBoot.Evidence

open Python

def known (type : Option (List String)) (const : Option String) (enum : Option (List String))
    (required : List String) (properties : List (String × Schema))
    (additionalProperties : Additional Schema) (items : Option Schema) : Schema where
  type := type
  const := const.map .str
  enum := enum.map (·.map .str)
  required := required
  properties := properties
  additionalProperties := additionalProperties
  items := items

inductive Understood : Schema → Prop
  | of {type : Option (List String)} {const : Option String} {enum : Option (List String)}
      {required : List String} {properties : List (String × Schema)}
      {additionalProperties : Additional Schema} {items : Option Schema}
      (named : (properties.map Prod.fst).Nodup)
      (members : ∀ property ∈ properties, Understood property.2)
      (others : ∀ child, additionalProperties = .schema child → Understood child)
      (elements : ∀ child, items = some child → Understood child) :
      Understood (known type const enum required properties additionalProperties items)

theorem lookup_of_mem {properties : List (String × Schema)}
    (named : (properties.map Prod.fst).Nodup) {key : String} {child : Schema}
    (listed : (key, child) ∈ properties) : properties.lookup key = some child := by
  obtain ⟨front, back, rfl⟩ := List.append_of_mem listed
  refine List.lookup_eq_some_iff.mpr ⟨front, back, rfl, fun property earlier => ?_⟩
  rw [List.map_append, List.map_cons, List.nodup_append] at named
  exact bne_iff_ne.mpr (Ne.symm (named.2.2 _ (List.mem_map_of_mem earlier) key (by simp)))

theorem typeMatches_hasType {value : Json} {name : String}
    (matching : typeMatches value name = true) : Schema.hasType name value = true := by
  by_cases number : name = "number"
  · subst number
    cases value <;> simp_all [typeMatches, jsonTypeName, Schema.hasType]
  · cases value <;> simp_all [typeMatches, jsonTypeName, Schema.hasType, eq_comm]

section Sound

variable {schema : Schema} {value : Json} {path : String}
  (accepted : validateSchema schema value path = .ok ())
include accepted

theorem type_sound : Schema.typeOk schema.type value = true := by
  cases listed : schema.type with
  | none => rfl
  | some names =>
    obtain ⟨name, named, matching⟩ := accepted_type accepted names listed
    exact List.any_eq_true.mpr ⟨name, named, typeMatches_hasType matching⟩

theorem required_sound : Schema.requiredOk schema.required value = true := by
  cases value with
  | obj members =>
    rw [Schema.requiredOk_obj, List.all_eq_true]
    intro key listed
    obtain ⟨item, found⟩ := (accepted_members accepted members rfl).1 key listed
    rw [found]
    rfl
  | _ => rfl

theorem extra_sound (sound : ∀ child, schema.additionalProperties = .schema child →
      ∀ item place, validateSchema child item place = .ok () → child.valid item = true) :
    Schema.additionalValid schema.additionalProperties
      (Schema.membersBeside (schema.properties.map Prod.fst) value) = true := by
  cases value with
  | obj members =>
    obtain ⟨_, extra, each⟩ := accepted_object accepted members rfl
    cases additional : schema.additionalProperties with
    | absent | allowed => rfl
    | forbidden =>
      rw [additional, checkExtra_ok] at extra
      exact (Schema.additionalValid_forbidden _ _).mpr extra
    | schema child =>
      rw [Schema.additionalValid, List.all_eq_true]
      intro member beside
      obtain ⟨listed, outside⟩ := List.mem_filter.mp beside
      have checked := each member listed
      rw [if_neg (of_decide_eq_true outside), additional] at checked
      exact sound child additional member.2 _ checked
  | _ => cases schema.additionalProperties <;> rfl

end Sound

theorem Understood.sound {schema : Schema} (understood : Understood schema) {value : Json}
    {path : String} (accepted : validateSchema schema value path = .ok ()) :
    schema.valid value = true := by
  induction understood generalizing value path with
  | @of type const enum required properties additionalProperties items named _ _ _ member other
      element =>
    refine (Schema.valid_iff _ _).mpr {
      type := type_sound accepted
      required := required_sound accepted
      additionalProperties := extra_sound accepted fun child is _ _ => other child is
      pattern := rfl
      minLength := Schema.minLengthOk_absent value
      array := Schema.arrayOk_absent value
      range := Schema.rangeOk_absent value
      const := ?_, enum := ?_, properties := ?_, items := ?_
      allOf := nofun, anyOf := nofun, not := nofun, ifThen := nofun }
    · cases const with
      | none => rfl
      | some text =>
        rw [(Json.pyEq_str _ _).mp (accepted_const accepted (.str text) rfl)]
        exact (Json.same_str false text _).mpr rfl
    · cases enum with
      | none => rfl
      | some texts =>
        obtain ⟨choice, listed, equal⟩ := accepted_enum accepted _ rfl
        obtain ⟨text, _, rfl⟩ := List.mem_map.mp listed
        rw [(Json.pyEq_str _ _).mp equal]
        exact List.any_eq_true.mpr ⟨_, listed, (Json.same_str _ _ _).mpr rfl⟩
    · intro key child listed item found
      cases value with
      | obj members =>
        have checked := (accepted_members accepted members rfl).2 key child item
          (lookup_of_mem named listed) found
        exact member (key, child) listed checked
      | _ => cases found
    · rintro child is elements rfl item listed
      obtain ⟨_, checked⟩ := accepted_items accepted elements rfl child is item listed
      exact element child is checked

theorem hasType_typeMatches {value : Json} (plain : value.Plain) {name : String}
    (typed : Schema.hasType name value = true) : typeMatches value name = true := by
  by_cases number : name = "number"
  · subst number
    cases plain <;> simp_all [typeMatches, jsonTypeName, Schema.hasType]
  · cases plain <;> simp_all [typeMatches, jsonTypeName, Schema.hasType, eq_comm]

section Complete

variable {schema : Schema} {value : Json} (satisfies : schema.Satisfies value)
include satisfies

theorem const_complete (const : Option String) (texts : schema.const = const.map .str)
    (path : String) : checkConst schema.const value path = .ok () := by
  rw [checkConst_ok, texts]
  intro expected listed
  obtain ⟨text, rfl, rfl⟩ := Option.map_eq_some_iff.mp listed
  have equal := satisfies.const
  rw [texts, Option.map_some, Schema.constOk_some] at equal
  exact (Json.pyEq_str _ _).mpr ((Json.same_str _ _ _).mp equal)

theorem enum_complete (enum : Option (List String)) (texts : schema.enum = enum.map (·.map .str))
    (path : String) : checkEnum schema.enum value path = .ok () := by
  rw [checkEnum_ok, texts]
  intro choices listed
  obtain ⟨words, rfl, rfl⟩ := Option.map_eq_some_iff.mp listed
  have accepted := satisfies.enum
  rw [texts, Option.map_some, Schema.enumOk, List.any_eq_true] at accepted
  obtain ⟨choice, among, equal⟩ := accepted
  obtain ⟨text, _, rfl⟩ := List.mem_map.mp among
  exact ⟨_, among, (Json.pyEq_str _ _).mpr ((Json.same_str _ _ _).mp equal)⟩

theorem type_complete (plain : value.Plain) (path : String) :
    checkType schema.type value path = .ok () := by
  rw [checkType_ok]
  intro names listed
  have typed := satisfies.type
  rw [listed, Schema.typeOk, Option.all_some, List.any_eq_true] at typed
  obtain ⟨name, named, matching⟩ := typed
  exact ⟨name, named, hasType_typeMatches plain matching⟩

variable {members : List (String × Json)} (object : value = .obj members)
include object

theorem required_complete (path : String) :
    checkRequired schema.required members path = .ok () := by
  rw [checkRequired_ok]
  intro key listed
  have present := satisfies.required
  rw [object, Schema.requiredOk_obj, List.all_eq_true] at present
  exact Option.isSome_iff_exists.mp (present key listed)

theorem extra_complete (path : String) :
    checkExtra schema.additionalProperties (schema.properties.map Prod.fst) members path =
      .ok () := by
  cases additional : schema.additionalProperties with
  | forbidden =>
    have within := satisfies.additionalProperties
    rw [object, additional, Schema.additionalValid_forbidden] at within
    rwa [checkExtra_ok]
  | _ => rfl

theorem beside_complete {key : String} {item : Json} (listed : (key, item) ∈ members)
    (outside : key ∉ schema.properties.map Prod.fst) (path : String)
    (complete : ∀ child, schema.additionalProperties = .schema child →
      child.valid item = true → validateSchema child item path = .ok ()) :
    validateAdditional schema.additionalProperties item path = .ok () := by
  cases additional : schema.additionalProperties with
  | schema child =>
    have valid := satisfies.additionalProperties
    rw [object, additional, Schema.additionalValid, List.all_eq_true] at valid
    have beside : (key, item) ∈ Schema.membersBeside (schema.properties.map Prod.fst)
        (.obj members) := List.mem_filter.mpr ⟨listed, decide_eq_true outside⟩
    exact complete child additional (valid _ beside)
  | _ => rfl

end Complete

theorem Understood.complete {schema : Schema} (understood : Understood schema) {value : Json}
    (plain : value.Plain) (valid : schema.valid value = true) (path : String) :
    validateSchema schema value path = .ok () := by
  induction understood generalizing value path with
  | @of type const enum required properties additionalProperties items named _ _ _ member other
      element =>
    have satisfies := (Schema.valid_iff _ _).mp valid
    rw [validateSchema_eq, then_ok, then_ok, then_ok]
    refine ⟨const_complete satisfies const rfl path, enum_complete satisfies enum rfl path,
      type_complete satisfies plain path, ?_⟩
    cases plain with
    | @obj members unique each =>
      rw [then_ok, then_ok, forM_ok]
      refine ⟨required_complete satisfies rfl path, extra_complete satisfies rfl path, ?_⟩
      rintro ⟨key, item⟩ listed
      by_cases inside : key ∈ properties.map Prod.fst
      · obtain ⟨⟨name, child⟩, within, same⟩ := List.mem_map.mp inside
        obtain rfl : name = key := same
        have accepted := satisfies.properties _ child within item
          (Json.lookup_of_mem unique listed)
        refine (if_pos inside).trans ?_
        exact (validateProperty_eq properties name child (lookup_of_mem named within) _ _).trans
          (member _ within (each _ listed) accepted _)
      · refine (if_neg inside).trans ?_
        exact beside_complete satisfies rfl listed inside _ fun child is accepted =>
          other child is (each _ listed) accepted _
    | @arr elements each =>
      rw [forM_ok]
      rintro ⟨item, index⟩ listed
      have within : item ∈ elements := List.fst_mem_of_mem_zipIdx listed
      cases items with
      | none => rfl
      | some child =>
        have accepted := satisfies.items child rfl elements rfl item within
        exact element child rfl (each item within) accepted _
    | _ => rfl

theorem validateSchema_correct {schema : Schema} (understood : Understood schema) {value : Json}
    (plain : value.Plain) (path : String) :
    validateSchema schema value path = .ok () ↔ schema.valid value = true :=
  ⟨fun accepted => understood.sound accepted, fun valid => understood.complete plain valid path⟩

def countsSchema : Schema :=
  known (some ["object"]) none none [] [] (.schema
    (known (some ["array"]) none none [] [] .absent
      (some (known (some ["integer"]) none none [] [] .absent none)))) none

theorem countsSchema_understood : Understood countsSchema := by
  have integer : Understood (known (some ["integer"]) none none [] [] .absent none) :=
    .of .nil (by simp) (by simp) (by simp)
  have integers : Understood (known (some ["array"]) none none [] [] .absent
      (some (known (some ["integer"]) none none [] [] .absent none))) :=
    .of .nil (by simp) (by simp) (by rintro _ ⟨⟩; exact integer)
  exact .of .nil (by simp) (by rintro _ ⟨⟩; exact integers) (by simp)

-- `True` is no integer to the interpreter either.
theorem validateSchema_correct_counts :
    validateSchema countsSchema (.obj [("tries", .arr [.int 3, .bool true])]) "$" = .ok () ↔
      countsSchema.valid (.obj [("tries", .arr [.int 3, .bool true])]) = true := by
  have items : ∀ item ∈ [Json.int 3, .bool true], item.Plain := by
    simp [Json.Plain.int, Json.Plain.bool]
  refine validateSchema_correct countsSchema_understood (.obj (by simp) ?_) "$"
  rintro _ (_ | _)
  · exact .arr items
  · contradiction

end SourceosBoot.Evidence
