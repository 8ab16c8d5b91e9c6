import SourceosBoot.AbUpdate.SlotDocuments

set_option autoImplicit false

namespace SourceosBoot.AbUpdate

open Python Schema UpdateSlotSchema

def hasMember (doc : Json) (key : String) (value : Json) : Bool :=
  (doc.get? key).any (Json.jsonEq value)

structure ContractSlot (slot : SlotState) : Prop where
  writing : slot.state = .writing → slot.role = .candidate
  active : slot.role = .active → slot.successful = true ∧ 1 ≤ slot.bootPriority
  unbootable : slot.state = .unbootable → slot.bootPriority = 0 ∧ slot.successful = false
  good : slot.state = .good → slot.successful = true
  successful : slot.successful = true → slot.payloadDigest ≠ none
  digest : slot.payloadDigest ≠ some ""
  priority : 0 ≤ slot.bootPriority ∧ slot.bootPriority ≤ 15
  tries : 0 ≤ slot.triesRemaining ∧ slot.triesRemaining ≤ 7

-- What the schema asks of a slot and `ContractSlot` does not.
structure SlotTexts (slot : SlotState) : Prop where
  digest : ∀ text, slot.payloadDigest = some text → digestPattern.search text = true
  verdict : ∀ text, slot.lastProbeVerdict = some text → text = "pass" ∨ text = "fail"

structure Describes (members : List (String × Json)) (slot : SlotState) : Prop where
  label : Json.lookup "slot" members = some (.str slot.slot.name)
  role : Json.lookup "role" members = some (.str slot.role.name)
  state : Json.lookup "state" members = some (.str slot.state.name)
  bootPriority : ∃ item, Json.lookup "bootPriority" members = some item ∧
    asInt item = some slot.bootPriority
  triesRemaining : ∃ item, Json.lookup "triesRemaining" members = some item ∧
    asInt item = some slot.triesRemaining
  successful : Json.lookup "successful" members = some (.bool slot.successful)
  currentlyRunning : Json.lookup "currentlyRunning" members = some (.bool slot.currentlyRunning)
  payloadDigest : asOptionalText ((Json.lookup "payloadDigest" members).getD .null) =
    some slot.payloadDigest
  payloadRef : asOptionalText ((Json.lookup "payloadRef" members).getD .null) =
    some slot.payloadRef
  version : asOptionalText ((Json.lookup "version" members).getD .null) = some slot.version
  lastProbeVerdict : asOptionalText ((Json.lookup "lastProbeVerdict" members).getD .null) =
    some slot.lastProbeVerdict

theorem oneOf_name {α : Type} (choices : List α) (name : α → String) (message : String → String)
    (choice : α) (found : choices.find? (fun other => name other = name choice) = some choice) :
    oneOf choices name message (.str (name choice)) = .ok choice := by
  have same : (fun other => Json.pyEq (.str (name other)) (.str (name choice))) =
      fun other => decide (name other = name choice) := by
    funext other
    rw [Bool.eq_iff_iff]
    simp only [Json.pyEq, Json.same_str, Json.str.injEq, decide_eq_true_eq]
    exact eq_comm
  rw [oneOf, same, found]
  rfl

theorem oneOf_found {α : Type} {choices : List α} {name : α → String}
    {message : String → String} {value : Json} {choice : α}
    (found : oneOf choices name message value = .ok choice) :
    choice ∈ choices ∧ value = .str (name choice) := by
  rw [oneOf] at found
  by_cases hashable : value.hashable = true
  · rw [if_pos hashable] at found
    cases chosen : choices.find? fun choice => Json.pyEq (.str (name choice)) value with
    | none => simp [chosen, raise] at found
    | some other =>
      simp only [chosen, Except.ok.injEq] at found
      subst found
      have same := List.find?_some chosen
      exact ⟨List.mem_of_find?_eq_some chosen, (Json.same_str _ _ _).mp same⟩
  · simp [hashable, raise] at found

theorem Describes.read {members : List (String × Json)} {slot : SlotState}
    (describes : Describes members slot) : slotFromDocument (.obj members) = .ok (some slot) := by
  obtain ⟨bootPriority, hasPriority, priority⟩ := describes.bootPriority
  obtain ⟨triesRemaining, hasTries, tries⟩ := describes.triesRemaining
  have label := oneOf_name slotLabels SlotLabel.name
    (fun shown => s!"slot must be 'A' or 'B', got {shown}") slot.slot
    (by cases slot.slot <;> decide)
  have role := oneOf_name roles Role.name
    (fun shown => s!"role must be 'active' or 'candidate', got {shown}") slot.role
    (by cases slot.role <;> decide)
  have state := oneOf_name slotStates Lifecycle.name
    (fun shown => s!"unknown slot state {shown}") slot.state (by cases slot.state <;> decide)
  simp only [slotFromDocument, Json.getItem, Json.getD, describes.label, describes.role,
    describes.state, hasPriority, hasTries, describes.successful, describes.currentlyRunning]
  simp [bind, Except.bind, pure, Except.pure, label, role, state, priority, tries, asBool,
    describes.payloadDigest, describes.payloadRef, describes.version, describes.lastProbeVerdict]

theorem typed_object (value : Json) (typed : typeOk (some ["object"]) value = true) :
    ∃ members, value = .obj members := by
  cases value <;> simp [typeOk, hasType] at typed ⊢

theorem typed_string (value : Json) (typed : typeOk (some ["string"]) value = true) :
    ∃ text, value = .str text := by
  cases value <;> simp [typeOk, hasType] at typed ⊢

theorem typed_boolean (value : Json) (typed : typeOk (some ["boolean"]) value = true) :
    ∃ truth, value = .bool truth := by
  cases value <;> simp [typeOk, hasType] at typed ⊢

theorem typed_integer (value : Json) (typed : typeOk (some ["integer"]) value = true) :
    ∃ number, asInt value = some number := by
  cases value <;> simp_all [typeOk, hasType, asInt]

theorem typed_string_or_null (value : Json) (typed : typeOk (some ["string", "null"]) value = true) :
    ∃ text, asOptionalText value = some text := by
  cases value <;> simp [typeOk, hasType, asOptionalText] at typed ⊢

theorem number_of_asInt {value : Json} {number : Int} (whole : asInt value = some number) :
    Json.number false value = some (number : Rat) := by
  cases value with
  | int held => simpa [asInt, Json.number] using whole
  | float held shown =>
    by_cases integral : held.den = 1
    · simp only [asInt, integral, if_true, Option.some.injEq] at whole
      simp [Json.number, ← whole, Rat.coe_int_num_of_den_eq_one integral]
    · simp [asInt, integral] at whole
  | _ => simp [asInt] at whole

theorem rangeOk_asInt {value : Json} {number : Int} {minimum maximum : Option Int}
    (whole : asInt value = some number) (range : rangeOk minimum maximum value = true) :
    (∀ least ∈ minimum, least ≤ number) ∧ ∀ most ∈ maximum, number ≤ most := by
  simp only [rangeOk, number_of_asInt whole, Bool.and_eq_true] at range
  constructor
  · rintro least rfl
    exact Rat.intCast_le_intCast.mp (by simpa using range.1)
  · rintro most rfl
    exact Rat.intCast_le_intCast.mp (by simpa using range.2)

theorem jsonEq_asInt {value : Json} {number expected : Int} (whole : asInt value = some number)
    (same : Json.jsonEq (.int expected) value = true) : number = expected := by
  have equal := number_of_asInt whole
  simp only [Json.jsonEq, Json.same, decide_eq_true_eq] at same
  simpa [equal] using same

theorem enum_name {α : Type} (choices : List α) (name : α → String) (value : Json)
    (listed : enumOk (some (choices.map fun choice => .str (name choice))) value = true) :
    ∃ choice, value = .str (name choice) := by
  simp only [enumOk, List.any_eq_true, List.mem_map] at listed
  obtain ⟨_, ⟨choice, _, rfl⟩, same⟩ := listed
  exact ⟨choice, (Json.same_str _ _ _).mp same⟩

theorem member_valid (key : String) (expected : Json) (members : List (String × Json)) :
    (member key expected).valid (.obj members) = true ↔
      ∃ item, Json.lookup key members = some item ∧ Json.jsonEq expected item = true := by
  cases found : Json.lookup key members <;>
    simp [valid_eq, member, propertiesValid, Json.get?, found]

theorem member_of_valid {key : String} {expected : Json} {members : List (String × Json)}
    (valid : (member key expected).valid (.obj members) = true) {item : Json}
    (found : Json.lookup key members = some item) : Json.jsonEq expected item = true := by
  simpa [member_valid, found] using valid

theorem clause_of_valid {schema condition consequence : Schema} {value : Json}
    (valid : schema.valid value = true) (part : Schema) (listed : part ∈ schema.allOf)
    (clause : part.ifThen = some (condition, consequence))
    (holds : condition.valid value = true) : consequence.valid value = true :=
  ((valid_iff _ _).mp (((valid_iff _ _).mp valid).allOf part listed)).ifThen _ _ clause holds

section Members

variable {members : List (String × Json)} (valid : updateSlotSchema.valid (.obj members) = true)
include valid

theorem required_member (key : String) (listed : key ∈ updateSlotSchema.required) :
    ∃ item, Json.lookup key members = some item := by
  have all := ((valid_iff _ _).mp valid).required
  rw [requiredOk_obj, List.all_eq_true] at all
  exact Option.isSome_iff_exists.mp (all key listed)

theorem property_satisfied {key : String} {child : Schema}
    (listed : (key, child) ∈ updateSlotSchema.properties) {item : Json}
    (found : Json.lookup key members = some item) : child.Satisfies item :=
  (valid_iff _ _).mp (((valid_iff _ _).mp valid).properties key child listed item found)

theorem named_member {α : Type} (key : String) (choices : List α) (name : α → String)
    (required : key ∈ updateSlotSchema.required)
    (listed : (key, { type := some ["string"], enum := some (choices.map fun choice => .str (name choice)) })
      ∈ updateSlotSchema.properties) :
    ∃ choice, Json.lookup key members = some (.str (name choice)) := by
  obtain ⟨item, found⟩ := required_member valid key required
  obtain ⟨choice, rfl⟩ := enum_name choices name item (property_satisfied valid listed found).enum
  exact ⟨choice, found⟩

theorem boolean_member (key : String) (required : key ∈ updateSlotSchema.required)
    (listed : (key, { type := some ["boolean"] }) ∈ updateSlotSchema.properties) :
    ∃ truth, Json.lookup key members = some (.bool truth) := by
  obtain ⟨item, found⟩ := required_member valid key required
  obtain ⟨truth, rfl⟩ := typed_boolean item (property_satisfied valid listed found).type
  exact ⟨truth, found⟩

theorem integer_member (key : String) (least most : Int)
    (required : key ∈ updateSlotSchema.required)
    (listed : (key, { type := some ["integer"], minimum := some least, maximum := some most })
      ∈ updateSlotSchema.properties) :
    ∃ item number, Json.lookup key members = some item ∧ asInt item = some number ∧
      least ≤ number ∧ number ≤ most := by
  obtain ⟨item, found⟩ := required_member valid key required
  have satisfied := property_satisfied valid listed found
  obtain ⟨number, whole⟩ := typed_integer item satisfied.type
  obtain ⟨above, below⟩ := rangeOk_asInt whole satisfied.range
  exact ⟨item, number, found, whole, above least rfl, below most rfl⟩

theorem optional_member (key : String) (child : Schema)
    (listed : (key, child) ∈ updateSlotSchema.properties)
    (textual : ∀ item, typeOk child.type item = true → ∃ text, asOptionalText item = some text) :
    ∃ text, asOptionalText ((Json.lookup key members).getD .null) = some text := by
  cases found : Json.lookup key members with
  | none => exact ⟨none, rfl⟩
  | some item => exact textual item (property_satisfied valid listed found).type

end Members

theorem asOptionalText_string {value : Json} (typed : typeOk (some ["string"]) value = true) :
    ∃ text, asOptionalText value = some text := by
  obtain ⟨text, rfl⟩ := typed_string value typed
  exact ⟨some text, rfl⟩

theorem lookup_of_text {key text : String} {members : List (String × Json)}
    (read : asOptionalText ((Json.lookup key members).getD .null) = some (some text)) :
    Json.lookup key members = some (.str text) := by
  cases found : Json.lookup key members with
  | none => simp [found, asOptionalText] at read
  | some item => cases item <;> simp_all [asOptionalText]

theorem describes_of_valid (doc : Json) (valid : updateSlotSchema.valid doc = true) :
    ∃ members slot, doc = .obj members ∧ Describes members slot := by
  -- Member by member: a required one is there, an optional one reads as null where it is not.
  obtain ⟨members, rfl⟩ := typed_object doc ((valid_iff _ _).mp valid).type
  obtain ⟨slot, label⟩ := named_member valid "slot" slotLabels SlotLabel.name
    (by simp [updateSlotSchema]) (by simp [updateSlotSchema, slotLabels, SlotLabel.name])
  obtain ⟨role, hasRole⟩ := named_member valid "role" roles Role.name
    (by simp [updateSlotSchema]) (by simp [updateSlotSchema, roles, Role.name])
  obtain ⟨state, hasState⟩ := named_member valid "state" slotStates Lifecycle.name
    (by simp [updateSlotSchema]) (by simp [updateSlotSchema, slotStates, Lifecycle.name])
  obtain ⟨item, bootPriority, hasPriority, priority, _⟩ := integer_member valid "bootPriority" 0 15
    (by simp [updateSlotSchema]) (by simp [updateSlotSchema])
  obtain ⟨tries, triesRemaining, hasTries, remaining, _⟩ :=
    integer_member valid "triesRemaining" 0 7
      (by simp [updateSlotSchema]) (by simp [updateSlotSchema])
  obtain ⟨successful, hasSuccessful⟩ := boolean_member valid "successful"
    (by simp [updateSlotSchema]) (by simp [updateSlotSchema])
  obtain ⟨currentlyRunning, hasRunning⟩ := boolean_member valid "currentlyRunning"
    (by simp [updateSlotSchema]) (by simp [updateSlotSchema])
  obtain ⟨payloadDigest, digest⟩ := optional_member valid "payloadDigest" _
    (by simp [updateSlotSchema]; rfl) fun _ => asOptionalText_string
  obtain ⟨payloadRef, ref⟩ := optional_member valid "payloadRef" _
    (by simp [updateSlotSchema]; rfl) fun _ => asOptionalText_string
  obtain ⟨version, hasVersion⟩ := optional_member valid "version" _
    (by simp [updateSlotSchema]; rfl) fun _ => asOptionalText_string
  obtain ⟨lastProbeVerdict, verdict⟩ := optional_member valid "lastProbeVerdict" _
    (by simp [updateSlotSchema]; rfl) typed_string_or_null
  exact ⟨members, {
    slot := slot
    role := role
    state := state
    bootPriority := bootPriority
    triesRemaining := triesRemaining
    successful := successful
    currentlyRunning := currentlyRunning
    payloadDigest := payloadDigest
    payloadRef := payloadRef
    version := version
    lastProbeVerdict := lastProbeVerdict }, rfl, {
    label := label
    role := hasRole
    state := hasState
    bootPriority := ⟨item, hasPriority, priority⟩
    triesRemaining := ⟨tries, hasTries, remaining⟩
    successful := hasSuccessful
    currentlyRunning := hasRunning
    payloadDigest := digest
    payloadRef := ref
    version := hasVersion
    lastProbeVerdict := verdict }⟩

section Contract

variable {members : List (String × Json)} {slot : SlotState} (describes : Describes members slot)
  (valid : updateSlotSchema.valid (.obj members) = true)
include describes valid

theorem Describes.writing_candidate (writing : slot.state = .writing) : slot.role = .candidate := by
  have holds := (member_valid "state" (.str "writing") members).mpr
    ⟨_, describes.state, by simp [Json.jsonEq, writing, Lifecycle.name]⟩
  have clause := clause_of_valid valid writingHoldsCandidate (by simp [updateSlotSchema]) rfl holds
  have role := member_of_valid clause describes.role
  cases known : slot.role with
  | candidate => rfl
  | active => simp [Json.jsonEq, known, Role.name] at role

theorem Describes.active_bootable (active : slot.role = .active) :
    slot.successful = true ∧ 1 ≤ slot.bootPriority := by
  have holds := (member_valid "role" (.str "active") members).mpr
    ⟨_, describes.role, by simp [Json.jsonEq, active, Role.name]⟩
  have clause := clause_of_valid valid activeIsBootable (by simp [updateSlotSchema]) rfl holds
  have property := ((valid_iff _ _).mp clause).properties
  have successful := property "successful" _ (.head _) _ describes.successful
  obtain ⟨item, found, whole⟩ := describes.bootPriority
  have priority := property "bootPriority" _ (.tail _ (.head _)) item found
  rw [const_valid, Json.jsonEq_bool] at successful
  have bounded := (rangeOk_asInt whole ((valid_iff _ _).mp priority).range).1
  exact ⟨by simpa using successful, bounded 1 rfl⟩

theorem Describes.unbootable_zeroed (unbootable : slot.state = .unbootable) :
    slot.bootPriority = 0 ∧ slot.successful = false := by
  have holds := (member_valid "state" (.str "unbootable") members).mpr
    ⟨_, describes.state, by simp [Json.jsonEq, unbootable, Lifecycle.name]⟩
  have clause := clause_of_valid valid unbootableIsZeroed (by simp [updateSlotSchema]) rfl holds
  have property := ((valid_iff _ _).mp clause).properties
  obtain ⟨item, found, whole⟩ := describes.bootPriority
  have priority := property "bootPriority" _ (.head _) item found
  have successful := property "successful" _ (.tail _ (.head _)) _ describes.successful
  rw [const_valid] at priority successful
  exact ⟨jsonEq_asInt whole priority, by simpa using successful⟩

theorem Describes.good_successful (good : slot.state = .good) : slot.successful = true := by
  have holds := (member_valid "state" (.str "good") members).mpr
    ⟨_, describes.state, by simp [Json.jsonEq, good, Lifecycle.name]⟩
  have clause := clause_of_valid valid goodIsSuccessful (by simp [updateSlotSchema]) rfl holds
  simpa using member_of_valid clause describes.successful

theorem Describes.successful_digest (successful : slot.successful = true) :
    slot.payloadDigest ≠ none := by
  have holds := (member_valid "successful" (.bool true) members).mpr
    ⟨_, describes.successful, by simp [successful]⟩
  have clause := clause_of_valid valid successfulHasDigest (by simp [updateSlotSchema]) rfl holds
  have required := ((valid_iff _ _).mp clause).required
  rw [requiredOk_obj, List.all_eq_true] at required
  obtain ⟨item, found⟩ := Option.isSome_iff_exists.mp (required "payloadDigest" (.head _))
  obtain ⟨text, rfl⟩ := typed_string item
    (property_satisfied valid (by simp [updateSlotSchema]; rfl) found).type
  have digest := describes.payloadDigest
  simp only [found, Option.getD_some, asOptionalText, Option.some.injEq] at digest
  simp [← digest]

theorem Describes.texts : SlotTexts slot where
  digest := by
    intro text held
    have found := lookup_of_text (describes.payloadDigest.trans (congrArg some held))
    have listed : ("payloadDigest", { type := some ["string"], pattern := some digestPattern }) ∈
        updateSlotSchema.properties := by simp [updateSlotSchema]
    exact (property_satisfied valid listed found).pattern
  verdict := by
    intro text held
    have found := lookup_of_text (describes.lastProbeVerdict.trans (congrArg some held))
    have listed : ("lastProbeVerdict", {
        type := some ["string", "null"], enum := some [.str "pass", .str "fail", .null] }) ∈
        updateSlotSchema.properties := by simp [updateSlotSchema]
    simpa [enumOk, Json.jsonEq] using (property_satisfied valid listed found).enum

theorem Describes.digest_shown : slot.payloadDigest ≠ some "" := by
  intro blank
  -- The pattern asks for 64 digits, and the empty text has none.
  exact absurd ((describes.texts valid).digest "" blank) (by decide)

theorem Describes.contract : ContractSlot slot where
  writing := describes.writing_candidate valid
  active := describes.active_bootable valid
  unbootable := describes.unbootable_zeroed valid
  good := describes.good_successful valid
  successful := describes.successful_digest valid
  digest := describes.digest_shown valid
  priority := by
    obtain ⟨item, found, whole⟩ := describes.bootPriority
    obtain ⟨_, number, same, held, bounds⟩ := integer_member valid "bootPriority" 0 15
      (by simp [updateSlotSchema]) (by simp [updateSlotSchema])
    simp_all
  tries := by
    obtain ⟨item, found, whole⟩ := describes.triesRemaining
    obtain ⟨_, number, same, held, bounds⟩ := integer_member valid "triesRemaining" 0 7
      (by simp [updateSlotSchema]) (by simp [updateSlotSchema])
    simp_all

end Contract

end SourceosBoot.AbUpdate
