import SourceosBoot.AbUpdate.SlotContract

set_option autoImplicit false

-- An empty text is left out of the document and reads back as none.

namespace SourceosBoot.AbUpdate

open Python Schema UpdateSlotSchema

def shown (text : Option String) : Option String := text.filter (· ≠ "")

def SlotState.shown (slot : SlotState) : SlotState :=
  { slot with
    payloadDigest := AbUpdate.shown slot.payloadDigest
    payloadRef := AbUpdate.shown slot.payloadRef
    version := AbUpdate.shown slot.version
    lastProbeVerdict := AbUpdate.shown slot.lastProbeVerdict }

theorem shown_of_nonempty {text : Option String} (nonempty : text ≠ some "") :
    shown text = text := by
  cases text with
  | none => rfl
  | some letters => simpa [shown] using nonempty

theorem lookup_optionalMember (key name : String) (text : Option String) :
    Json.lookup key (optionalMember name text) =
      if name = key then (shown text).map Json.str else none := by
  cases text with
  | none => simp [optionalMember, shown, Json.lookup]
  | some letters =>
    by_cases blank : letters = "" <;> by_cases same : name = key <;>
      simp [optionalMember, shown, Json.lookup, blank, same, Option.filter]

theorem optionalMember_key {key : String} {text : Option String} {member : String × Json}
    (listed : member ∈ optionalMember key text) : member.1 = key := by
  cases text with
  | none => simp [optionalMember] at listed
  | some letters => by_cases blank : letters = "" <;> simp_all [optionalMember]

section SlotMembers

variable (isalnum : Char → Bool) (targetRef : String) (label : SlotLabel) (slot : SlotState)

theorem slotDocument_members :
    slotDocument isalnum targetRef label slot = .obj (slotMembers isalnum targetRef label slot) :=
  rfl

theorem slotMembers_optional (key : String)
    (optional : Json.lookup key (fixedMembers isalnum targetRef label slot) = none) :
    Json.lookup key (slotMembers isalnum targetRef label slot) =
      (if "payloadDigest" = key then (shown slot.payloadDigest).map Json.str else none).or
        ((if "payloadRef" = key then (shown slot.payloadRef).map Json.str else none).or
          ((if "version" = key then (shown slot.version).map Json.str else none).or
            (if "lastProbeVerdict" = key then (shown slot.lastProbeVerdict).map Json.str
              else none))) := by
  simp [slotMembers, Json.lookup_append, lookup_optionalMember, optional]

theorem asOptionalText_map (text : Option String) :
    asOptionalText ((text.map Json.str).getD .null) = some text := by
  cases text <;> rfl

theorem slotMembers_describes :
    Describes (slotMembers isalnum targetRef label slot) slot.shown where
  label := slotMembers_fixed _ _ _ _ rfl
  role := slotMembers_fixed _ _ _ _ rfl
  state := slotMembers_fixed _ _ _ _ rfl
  bootPriority := ⟨_, slotMembers_fixed _ _ _ _ rfl, rfl⟩
  triesRemaining := ⟨_, slotMembers_fixed _ _ _ _ rfl, rfl⟩
  successful := slotMembers_fixed _ _ _ _ rfl
  currentlyRunning := slotMembers_fixed _ _ _ _ rfl
  payloadDigest := by
    simp [slotMembers_optional, fixedMembers, Json.lookup, asOptionalText_map, SlotState.shown]
  payloadRef := by
    simp [slotMembers_optional, fixedMembers, Json.lookup, asOptionalText_map, SlotState.shown]
  version := by
    simp [slotMembers_optional, fixedMembers, Json.lookup, asOptionalText_map, SlotState.shown]
  lastProbeVerdict := by
    simp [slotMembers_optional, fixedMembers, Json.lookup, asOptionalText_map, SlotState.shown]

end SlotMembers

def withoutIdPattern : Schema :=
  { updateSlotSchema with
    properties := updateSlotSchema.properties.map fun property =>
      if property.1 = "id" then (property.1, { property.2 with pattern := none }) else property }

theorem name_valid {α : Type} (choices : List α) (name : α → String) (choice : α)
    (listed : choice ∈ choices) :
    Schema.valid { type := some ["string"], enum := some (choices.map fun choice => .str (name choice)) }
      (.str (name choice)) = true := by
  have chosen : enumOk (some (choices.map fun choice => .str (name choice))) (.str (name choice)) =
      true := by
    simp only [enumOk, List.any_eq_true, List.mem_map]
    exact ⟨_, ⟨choice, listed, rfl⟩, (Json.same_str _ _ _).mpr rfl⟩
  simp [valid_eq, typeOk, hasType, chosen]

theorem shown_nonempty {text : Option String} {letters : String}
    (displayed : shown text = some letters) : text = some letters ∧ letters ≠ "" := by
  simpa [shown, Option.filter_eq_some_iff] using displayed

section Validity

variable (isalnum : Char → Bool) (targetRef : String) (label : SlotLabel) (slot : SlotState)

theorem fixedMembers_keys :
    (fixedMembers isalnum targetRef label slot).map Prod.fst = updateSlotSchema.required := rfl

theorem slotMembers_keys (member : String × Json)
    (listed : member ∈ slotMembers isalnum targetRef label slot) :
    member.1 ∈ updateSlotSchema.properties.map Prod.fst := by
  have required : ∀ key ∈ updateSlotSchema.required,
      key ∈ updateSlotSchema.properties.map Prod.fst := by decide
  simp only [slotMembers, List.mem_append] at listed
  rcases listed with (((fixed | found) | found) | found) | found
  · apply required
    rw [← fixedMembers_keys isalnum targetRef label slot]
    exact List.mem_map.mpr ⟨member, fixed, rfl⟩
  all_goals rw [optionalMember_key found]; decide

theorem slotMembers_fits {key : String} {child : Schema} {item : Json}
    (fixed : Json.lookup key (fixedMembers isalnum targetRef label slot) = some item)
    (valid : child.valid item = true) :
    Fits (slotMembers isalnum targetRef label slot) (key, child) :=
  fits_of_found (slotMembers_fixed isalnum targetRef label slot fixed) valid

theorem slotMembers_fits_text {key : String} {child : Schema} (text : Option String)
    (optional : Json.lookup key (slotMembers isalnum targetRef label slot) =
      (shown text).map Json.str)
    (valid : ∀ letters, text = some letters → letters ≠ "" → child.valid (.str letters) = true) :
    Fits (slotMembers isalnum targetRef label slot) (key, child) := by
  intro item found
  rw [optional, Option.map_eq_some_iff] at found
  obtain ⟨letters, displayed, rfl⟩ := found
  exact valid letters (shown_nonempty displayed).1 (shown_nonempty displayed).2

theorem slotDocument_fits (contract : ContractSlot slot) (texts : SlotTexts slot)
    (target : Pattern.search ⟨.literal "urn:srcos:", false⟩ targetRef = true)
    (property : String × Schema) (listed : property ∈ withoutIdPattern.properties) :
    Fits (slotMembers isalnum targetRef label slot) property := by
  have optional := slotMembers_optional isalnum targetRef label slot
  have fits {key : String} {child : Schema} {item : Json} :=
    @slotMembers_fits isalnum targetRef label slot key child item
  have text {key : String} {child : Schema} :=
    @slotMembers_fits_text isalnum targetRef label slot key child
  simp only [withoutIdPattern, updateSlotSchema, List.map_cons, List.map_nil, List.mem_cons,
    List.not_mem_nil, or_false] at listed
  -- The members in the order of the schema; `installedAt` and `lastBootedAt` are never rendered.
  rcases listed with rfl | rfl | rfl | rfl | rfl | rfl | rfl | rfl | rfl | rfl | rfl | rfl | rfl |
    rfl | rfl | rfl | rfl
  · exact fits rfl (type_valid _ _)
  · exact fits rfl (by simp [const_valid, Json.jsonEq])
  · exact fits rfl (by simp [const_valid, Json.jsonEq, specVersion])
  · exact fits rfl ((pattern_valid _ _).mpr target)
  · exact fits rfl
      (name_valid slotLabels SlotLabel.name slot.slot (by cases slot.slot <;> decide))
  · exact fits rfl (name_valid roles Role.name slot.role (by cases slot.role <;> decide))
  · exact fits rfl
      (name_valid slotStates Lifecycle.name slot.state (by cases slot.state <;> decide))
  · exact fits rfl (number_valid _ 0 15 contract.priority.1 contract.priority.2)
  · exact fits rfl (number_valid _ 0 7 contract.tries.1 contract.tries.2)
  · exact fits rfl (type_valid _ _)
  · exact fits rfl (type_valid _ _)
  · exact text slot.payloadDigest (by simp [optional, fixedMembers, Json.lookup])
      fun letters held _ => (pattern_valid _ _).mpr (texts.digest letters held)
  · exact text slot.payloadRef (by simp [optional, fixedMembers, Json.lookup])
      fun letters _ nonempty => (text_valid letters).mpr nonempty
  · exact text slot.version (by simp [optional, fixedMembers, Json.lookup])
      fun letters _ nonempty => (text_valid letters).mpr nonempty
  · exact fits_of_absent (by simp [optional, fixedMembers, Json.lookup])
  · exact fits_of_absent (by simp [optional, fixedMembers, Json.lookup])
  · refine text slot.lastProbeVerdict (by simp [optional, fixedMembers, Json.lookup])
      fun letters held _ => ?_
    rcases texts.verdict letters held with rfl | rfl <;> decide

theorem slotMembers_member {key : String} {expected value : Json}
    (fixed : Json.lookup key (fixedMembers isalnum targetRef label slot) = some value) :
    (member key expected).valid (.obj (slotMembers isalnum targetRef label slot)) =
      Json.jsonEq expected value := by
  rw [Bool.eq_iff_iff, member_valid, slotMembers_fixed isalnum targetRef label slot fixed]
  simp

theorem slotMembers_state (state : Lifecycle) :
    (member "state" (.str state.name)).valid (.obj (slotMembers isalnum targetRef label slot)) =
      true ↔ slot.state = state := by
  rw [slotMembers_member isalnum targetRef label slot rfl]
  cases slot.state <;> cases state <;> decide

theorem slotMembers_role (role : Role) :
    (member "role" (.str role.name)).valid (.obj (slotMembers isalnum targetRef label slot)) =
      true ↔ slot.role = role := by
  rw [slotMembers_member isalnum targetRef label slot rfl]
  cases slot.role <;> cases role <;> decide

theorem slotMembers_successful (value : Bool) :
    (member "successful" (.bool value)).valid
      (.obj (slotMembers isalnum targetRef label slot)) = true ↔ slot.successful = value := by
  rw [slotMembers_member isalnum targetRef label slot rfl]
  simp

theorem slotDocument_clauses (contract : ContractSlot slot) (part : Schema)
    (listed : part ∈ withoutIdPattern.allOf) :
    part.valid (.obj (slotMembers isalnum targetRef label slot)) = true := by
  have state := slotMembers_state isalnum targetRef label slot
  have role := slotMembers_role isalnum targetRef label slot
  have successful := slotMembers_successful isalnum targetRef label slot
  have hasSuccessful : Json.lookup "successful" (slotMembers isalnum targetRef label slot) = _ :=
    slotMembers_fixed isalnum targetRef label slot rfl
  have hasPriority : Json.lookup "bootPriority" (slotMembers isalnum targetRef label slot) = _ :=
    slotMembers_fixed isalnum targetRef label slot rfl
  simp only [withoutIdPattern, updateSlotSchema, List.mem_cons, List.not_mem_nil, or_false] at listed
  rcases listed with rfl | rfl | rfl | rfl | rfl
  · refine (ifThen_valid _ _ _).mpr fun writing => ?_
    exact (role .candidate).mpr (contract.writing ((state .writing).mp writing))
  · refine (ifThen_valid _ _ _).mpr fun active => ?_
    obtain ⟨marked, bootable⟩ := contract.active ((role .active).mp active)
    have least : (1 : Rat) ≤ slot.bootPriority := by exact_mod_cast bootable
    simp [valid_eq, propertiesValid, Json.get?, hasSuccessful, hasPriority, marked, rangeOk,
      Json.number, least]
  · refine (ifThen_valid _ _ _).mpr fun unbootable => ?_
    obtain ⟨zeroed, unmarked⟩ := contract.unbootable ((state .unbootable).mp unbootable)
    simp [valid_eq, propertiesValid, Json.get?, hasSuccessful, hasPriority, zeroed, unmarked,
      Json.jsonEq, Json.same, Json.number]
  · refine (ifThen_valid _ _ _).mpr fun good => ?_
    exact (successful true).mpr (contract.good ((state .good).mp good))
  · refine (ifThen_valid _ _ _).mpr fun marked => ?_
    have held := contract.successful ((successful true).mp marked)
    have digest := slotMembers_optional isalnum targetRef label slot "payloadDigest" rfl
    rw [if_pos rfl, shown_of_nonempty contract.digest] at digest
    cases known : slot.payloadDigest with
    | none => exact absurd known held
    | some text => simp [valid_eq, digest, known]

theorem slotDocument_valid (contract : ContractSlot slot) (texts : SlotTexts slot)
    (target : Pattern.search ⟨.literal "urn:srcos:", false⟩ targetRef = true) :
    withoutIdPattern.valid (slotDocument isalnum targetRef label slot) = true := by
  rw [slotDocument_members, valid_iff]
  constructor
  case required =>
    rw [requiredOk_obj, List.all_eq_true]
    intro key listed
    have fixed := (Json.lookup_isSome key (fixedMembers isalnum targetRef label slot)).mpr listed
    obtain ⟨item, found⟩ := Option.isSome_iff_exists.mp fixed
    rw [slotMembers_fixed isalnum targetRef label slot found]
    rfl
  case properties =>
    intro key child listed item found
    exact slotDocument_fits isalnum targetRef label slot contract texts target (key, child) listed
      item found
  case additionalProperties =>
    apply (additionalValid_forbidden _ _).mpr
    intro member listed
    exact slotMembers_keys isalnum targetRef label slot member listed
  case allOf => exact slotDocument_clauses isalnum targetRef label slot contract
  all_goals simp [withoutIdPattern, updateSlotSchema, typeOk, hasType]

end Validity

end SourceosBoot.AbUpdate
