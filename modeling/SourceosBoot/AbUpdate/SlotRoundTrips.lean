import SourceosBoot.AbUpdate.UpdateChains

set_option autoImplicit false

namespace SourceosBoot.AbUpdate

open Python Transition Schema
open Json (memberOrNull)

def slotId (isalnum : Char → Bool) (targetRef : String) (label : SlotLabel) : String :=
  s!"urn:srcos:update-slot:{localId isalnum targetRef}_{label.lower}"

def SameFields (left right : Json) : Prop :=
  ∀ key, Json.jsonEq (memberOrNull left key) (memberOrNull right key) = true

structure Carried (isalnum : Char → Bool) (doc : Json) : Prop where
  derivedId : ∀ target label, doc.get? "targetRef" = some (.str target) →
    doc.get? "slot" = some (.str (SlotLabel.name label)) →
      doc.get? "id" = some (.str (slotId isalnum target label))
  neverInstalled : memberOrNull doc "installedAt" = .null
  neverBooted : memberOrNull doc "lastBootedAt" = .null

def inOrder (left right : Json) : List Json :=
  if hasMember left "slot" (.str "A") then [left, right] else [right, left]

theorem asOptionalText_json {item : Json} {text : Option String}
    (read : asOptionalText item = some text) : item = (text.map Json.str).getD .null := by
  cases item <;> simp_all [asOptionalText]
  all_goals (obtain rfl := read; rfl)

theorem jsonEq_optional (text : Option String) :
    Json.jsonEq ((text.map Json.str).getD .null) ((text.map Json.str).getD .null) = true := by
  cases text <;> simp [Json.jsonEq]

section Rendered

variable (isalnum : Char → Bool) {members : List (String × Json)} {slot : SlotState}
  {target : String}

theorem rendered_fixed {key : String} {rendered held : Json}
    (fixed : Json.lookup key (fixedMembers isalnum target slot.slot slot) = some rendered)
    (found : Json.lookup key members = some held) (same : Json.jsonEq rendered held = true) :
    Json.jsonEq (memberOrNull (slotDocument isalnum target slot.slot slot) key)
      (memberOrNull (.obj members) key) = true := by
  simpa [slotDocument_members, memberOrNull, Json.get?, slotMembers_fixed _ _ _ _ fixed, found]
    using same

theorem rendered_text {key : String} {text : Option String}
    (optional : Json.lookup key (slotMembers isalnum target slot.slot slot) =
      (shown text).map Json.str) (nonempty : text ≠ some "")
    (read : asOptionalText ((Json.lookup key members).getD .null) = some text) :
    Json.jsonEq (memberOrNull (slotDocument isalnum target slot.slot slot) key)
      (memberOrNull (.obj members) key) = true := by
  simp only [slotDocument_members, memberOrNull, Json.get?, optional, asOptionalText_json read,
    shown_of_nonempty nonempty]
  exact jsonEq_optional text

variable (valid : updateSlotSchema.valid (.obj members) = true)
include valid

theorem nonempty_text {key : String} {text : Option String}
    (listed : (key, { type := some ["string"], minLength := 1 }) ∈ updateSlotSchema.properties)
    (read : asOptionalText ((Json.lookup key members).getD .null) = some text) :
    text ≠ some "" := by
  rintro rfl
  have satisfied := property_satisfied valid listed (lookup_of_text read)
  simpa [minLengthOk] using satisfied.minLength

theorem unlisted_absent {key : String}
    (unlisted : key ∉ updateSlotSchema.properties.map Prod.fst) :
    Json.lookup key members = none := by
  have closed := (additionalValid_forbidden _ _).mp ((valid_iff _ _).mp valid).additionalProperties
  cases found : Json.lookup key members with
  | none => rfl
  | some item => exact absurd (closed _ (Json.lookup_mem found)) unlisted

theorem constant_held (key : String) {expected : Json}
    (required : key ∈ updateSlotSchema.required)
    (listed : (key, { const := some expected }) ∈ updateSlotSchema.properties) :
    ∃ item, Json.lookup key members = some item ∧ Json.jsonEq expected item = true := by
  obtain ⟨item, found⟩ := required_member valid key required
  exact ⟨item, found, (property_satisfied valid listed found).const⟩

variable (describes : Describes members slot)
  (hasTarget : Json.lookup "targetRef" members = some (.str target))
include describes hasTarget

theorem rendered_same (key : String) (carried : key ∉ ["id", "installedAt", "lastBootedAt"]) :
    Json.jsonEq (memberOrNull (slotDocument isalnum target slot.slot slot) key)
      (memberOrNull (.obj members) key) = true := by
  have optional := slotMembers_optional isalnum target slot.slot slot
  have text {key : String} {text : Option String} := @rendered_text isalnum members slot target key text
  by_cases listed : key ∈ updateSlotSchema.properties.map Prod.fst
  · simp only [updateSlotSchema, List.map_cons, List.map_nil, List.mem_cons, List.not_mem_nil,
      or_false] at listed
    rcases listed with rfl | rfl | rfl | rfl | rfl | rfl | rfl | rfl | rfl | rfl | rfl | rfl | rfl |
      rfl | rfl | rfl | rfl
    · simp at carried
    · obtain ⟨item, found, same⟩ := constant_held valid "type" (by simp [updateSlotSchema])
        (by simp [updateSlotSchema]; rfl)
      exact rendered_fixed isalnum rfl found same
    · obtain ⟨item, found, same⟩ := constant_held valid "specVersion"
        (by simp [updateSlotSchema]) (by simp [updateSlotSchema]; rfl)
      exact rendered_fixed isalnum rfl found same
    · exact rendered_fixed isalnum rfl hasTarget (by simp [Json.jsonEq])
    · exact rendered_fixed isalnum rfl describes.label (by simp [Json.jsonEq])
    · exact rendered_fixed isalnum rfl describes.role (by simp [Json.jsonEq])
    · exact rendered_fixed isalnum rfl describes.state (by simp [Json.jsonEq])
    · obtain ⟨item, found, whole⟩ := describes.bootPriority
      exact rendered_fixed isalnum rfl found (by simp [Json.jsonEq, Json.same, number_of_asInt whole])
    · obtain ⟨item, found, whole⟩ := describes.triesRemaining
      exact rendered_fixed isalnum rfl found (by simp [Json.jsonEq, Json.same, number_of_asInt whole])
    · exact rendered_fixed isalnum rfl describes.successful (by simp)
    · exact rendered_fixed isalnum rfl describes.currentlyRunning (by simp)
    · exact text (by simp [optional, fixedMembers, Json.lookup]) (describes.digest_shown valid)
        describes.payloadDigest
    · exact text (by simp [optional, fixedMembers, Json.lookup])
        (nonempty_text valid (by simp [updateSlotSchema]) describes.payloadRef) describes.payloadRef
    · exact text (by simp [optional, fixedMembers, Json.lookup])
        (nonempty_text valid (by simp [updateSlotSchema]) describes.version) describes.version
    · simp at carried
    · simp at carried
    · refine text (by simp [optional, fixedMembers, Json.lookup]) ?_ describes.lastProbeVerdict
      intro blank
      simpa using (describes.texts valid).verdict "" blank
  · have absent := unlisted_absent valid listed
    have unrendered : Json.lookup key (slotMembers isalnum target slot.slot slot) = none := by
      cases found : Json.lookup key (slotMembers isalnum target slot.slot slot) with
      | none => rfl
      | some item => exact absurd (slotMembers_keys _ _ _ _ _ (Json.lookup_mem found)) listed
    simp [slotDocument_members, memberOrNull, Json.get?, absent, unrendered, Json.jsonEq]

omit valid describes hasTarget in
theorem unrendered {key : String}
    (absent : Json.lookup key (slotMembers isalnum target slot.slot slot) = none) :
    memberOrNull (slotDocument isalnum target slot.slot slot) key = .null := by
  simp only [slotDocument_members, memberOrNull, Json.get?, absent, Option.getD_none]

theorem rendered_same_iff :
    SameFields (slotDocument isalnum target slot.slot slot) (.obj members) ↔
      Carried isalnum (.obj members) := by
  have optional := slotMembers_optional isalnum target slot.slot slot
  have installed : memberOrNull (slotDocument isalnum target slot.slot slot) "installedAt" = .null :=
    unrendered isalnum (by simp [optional, fixedMembers, Json.lookup])
  have booted : memberOrNull (slotDocument isalnum target slot.slot slot) "lastBootedAt" = .null :=
    unrendered isalnum (by simp [optional, fixedMembers, Json.lookup])
  have id : memberOrNull (slotDocument isalnum target slot.slot slot) "id" =
      .str (slotId isalnum target slot.slot) := rfl
  constructor
  · intro same
    constructor
    case derivedId =>
      intro target' label hasTarget' hasLabel
      obtain rfl : target = target' := by simpa [Json.get?, hasTarget] using hasTarget'
      obtain rfl : slot.slot = label := by
        have names : slot.slot.name = label.name := by
          simpa [Json.get?, describes.label] using hasLabel
        revert names
        cases slot.slot <;> cases label <;> decide
      have agree := same "id"
      rw [id, Json.jsonEq, Json.same_str] at agree
      exact Json.lookup_of_getD agree (by simp)
    case neverInstalled =>
      have agree := same "installedAt"
      rwa [installed, Json.jsonEq, Json.same_null] at agree
    case neverBooted =>
      have agree := same "lastBootedAt"
      rwa [booted, Json.jsonEq, Json.same_null] at agree
  · intro kept key
    by_cases carried : key ∈ ["id", "installedAt", "lastBootedAt"]
    · simp only [List.mem_cons, List.not_mem_nil, or_false] at carried
      rcases carried with rfl | rfl | rfl
      · have held := kept.derivedId target slot.slot hasTarget describes.label
        rw [id, memberOrNull, held, Json.jsonEq]
        simp
      · simp [installed, kept.neverInstalled, Json.jsonEq]
      · simp [booted, kept.neverBooted, Json.jsonEq]
    · exact rendered_same isalnum valid describes hasTarget key carried

end Rendered

theorem inOrder_described {left right : List (String × Json)} {leftSlot rightSlot : SlotState}
    {target : String} (describes : DescribesPair left right leftSlot rightSlot target) :
    inOrder (.obj left) (.obj right) =
      if leftSlot.slot = .A then [.obj left, .obj right] else [.obj right, .obj left] := by
  have label : hasMember (.obj left) "slot" (.str "A") = decide (leftSlot.slot = .A) := by
    cases known : leftSlot.slot <;>
      simp [hasMember, Json.get?, describes.leftHolds.label, known, SlotLabel.name, Json.jsonEq,
        Json.same]
  simp [inOrder, label]

def Returns (isalnum : Char → Bool) (left right : Json) (arguments : MachineArguments) : Prop :=
  ∃ machine, machineFromSlotDocuments [left, right] arguments = .ok (some machine) ∧
    List.Forall₂ SameFields (machine.toSlotDocuments isalnum) (inOrder left right)

theorem slot_documents_returned_iff (isalnum : Char → Bool) (left right : Json)
    (pair : LabelledPair left right) (arguments : MachineArguments)
    (someAttempts : 1 ≤ arguments.maxAttempts) (triesWidth : arguments.maxAttempts ≤ 7) :
    Returns isalnum left right arguments ↔ Carried isalnum left ∧ Carried isalnum right := by
  obtain ⟨leftMembers, rightMembers, leftSlot, rightSlot, target, rfl, rfl, describes⟩ :=
    pair.describes
  have sameLeft := rendered_same_iff isalnum pair.leftValid describes.leftHolds describes.leftTarget
  have sameRight :=
    rendered_same_iff isalnum pair.rightValid describes.rightHolds describes.rightTarget
  have apart := describes.apart
  have built := pair.builds describes arguments someAttempts triesWidth
  rw [← sameLeft, ← sameRight, Returns, inOrder_described describes]
  simp only [built, Except.ok.injEq, Option.some.injEq, exists_eq_left', Machine.toSlotDocuments,
    slotLabels, List.map_cons, List.map_nil, SlotTable.ofPair_get]
  cases first : leftSlot.slot
  · simp [first, apart, SlotLabel.other]
  · simp [first, apart, SlotLabel.other, and_comm]

theorem slot_documents_returned_iff_example :
    Returns Char.isAlphanum exampleActive exampleCandidate exampleArguments ↔
      Carried Char.isAlphanum exampleActive ∧ Carried Char.isAlphanum exampleCandidate :=
  slot_documents_returned_iff Char.isAlphanum exampleActive exampleCandidate
    (exampleMachine_built.pair.labelled
      (by simp [exampleActive, exampleCandidate, Json.get?, Json.lookup]))
    exampleArguments (by decide) (by decide)

theorem installed_at_is_lost :
    LabelledPair exampleActive exampleCandidate ∧
    ¬ Returns Char.isAlphanum exampleActive exampleCandidate exampleArguments := by
  refine ⟨exampleMachine_built.pair.labelled
    (by simp [exampleActive, exampleCandidate, Json.get?, Json.lookup]), ?_⟩
  rintro ⟨machine, built, same⟩
  obtain rfl : exampleMachine = machine := by simpa [exampleMachine_built.built] using built
  cases same with
  | cons first _ => exact absurd (first "installedAt") (by decide +kernel)

structure SlotState.TextsShown (slot : SlotState) : Prop where
  payloadDigest : slot.payloadDigest ≠ some ""
  payloadRef : slot.payloadRef ≠ some ""
  version : slot.version ≠ some ""
  lastProbeVerdict : slot.lastProbeVerdict ≠ some ""

def Event.TextsShown : Event → Prop
  | .begin payloadDigest payloadRef version =>
    payloadDigest ≠ "" ∧ payloadRef ≠ some "" ∧ version ≠ some ""
  | _ => True

theorem SlotState.TextsShown.shown {slot : SlotState} (texts : slot.TextsShown) :
    slot.shown = slot := by
  simp only [SlotState.shown, shown_of_nonempty, texts.payloadDigest, texts.payloadRef,
    texts.version, texts.lastProbeVerdict, ne_eq, not_false_eq_true]

theorem Edge.textsShown {fallback : SlotLabel} {machine after : Machine} {event : Event}
    {fellBackTo : Option SlotLabel} (edge : Edge fallback machine event fellBackTo after)
    (given : event.TextsShown) (texts : ∀ label, (machine.slots.get label).TextsShown)
    (label : SlotLabel) : (after.slots.get label).TextsShown := by
  have home := texts fallback
  have target := texts fallback.other
  rcases SlotLabel.eq_or_other label fallback with rfl | rfl
  · have kept := edge.kept
    exact {
      payloadDigest := kept.payloadDigest ▸ home.payloadDigest
      payloadRef := kept.payloadRef ▸ home.payloadRef
      version := kept.version ▸ home.version
      lastProbeVerdict := kept.lastProbeVerdict ▸ home.lastProbeVerdict }
  · cases edge with
    | begin =>
      obtain ⟨digest, ref, version⟩ := given
      constructor <;> simp [digest, ref, version]
    | _ =>
      constructor <;> simp [target.payloadDigest, target.payloadRef, target.version,
        target.lastProbeVerdict]

structure Rebuilt (machine rebuilt : Machine) : Prop where
  slots : ∀ label, rebuilt.slots.get label = machine.slots.get label
  writes : ∀ payloadDigest payloadRef version, ∃ candidate,
    machine.candidate = .ok candidate ∧
      (device.step rebuilt (.begin payloadDigest payloadRef version)).2.toSlot =
        some candidate.slot

theorem HoldsRoles.rebuilt {label : SlotLabel} {machine : Machine}
    (roles : HoldsRoles machine label) (texts : ∀ label, (machine.slots.get label).TextsShown)
    (successful : (machine.slots.get label).successful = true) (arguments : MachineArguments)
    (someAttempts : 1 ≤ arguments.maxAttempts) (triesWidth : arguments.maxAttempts ≤ 7) :
    Rebuilt machine (machine.restarted arguments) where
  slots := fun label => (restarted_get machine arguments label).trans (texts label).shown
  writes := by
    intro payloadDigest payloadRef version
    have initial := roles.restarted successful arguments someAttempts triesWidth
    have edge := @Edge.begin label _ payloadDigest payloadRef version initial.idle
    refine ⟨_, roles.candidate_ok, ?_⟩
    rw [(edge_takes initial.standing edge).left, machine.slots.labelled]
    rfl

theorem slot_state_survives_restart (isalnum : Char → Bool) (config : Configuration)
    (items : List (String × SlotState)) (machine : Machine)
    (built : Machine.postInit config items = .ok machine)
    (texts : ∀ label, (machine.slots.get label).TextsShown) (events : List Event)
    (given : ∀ event ∈ events, event.TextsShown) :
    ((device.run machine events).toSlotDocuments isalnum).map slotFromDocument =
      slotLabels.map (fun label => .ok (some ((device.run machine events).slots.get label))) ∧
    ∀ active arguments, (device.run machine events).active = .ok active →
      active.successful = true → 1 ≤ arguments.maxAttempts → arguments.maxAttempts ≤ 7 →
      ∃ rebuilt, machineFromSlotDocuments ((device.run machine events).toSlotDocuments isalnum)
        arguments = .ok (some rebuilt) ∧ Rebuilt (device.run machine events) rebuilt := by
  obtain ⟨fallback, initial⟩ := postInit_initial config items machine built
  obtain ⟨standing, shown⟩ := run_edges_among Event.TextsShown
    (fun later => ∀ label, (later.slots.get label).TextsShown)
    (fun given _ texts edge => edge.textsShown given texts) initial.standing texts events given
  generalize device.run machine events = later at standing shown ⊢
  constructor
  · rw [Machine.toSlotDocuments, List.map_map]
    refine List.map_congr_left fun label _ => ?_
    have describes := slotMembers_describes isalnum later.config.targetRef label
      (later.slots.get label)
    rw [(shown label).shown] at describes
    rw [Function.comp_apply, slotDocument_members, describes.read]
  · intro active arguments found successful someAttempts triesWidth
    have roles := standing.good_roles
    obtain rfl : later.slots.get (later.goodSlot fallback) = active := by
      simpa [roles.active_ok] using found
    exact ⟨_, roles.restart successful arguments someAttempts triesWidth isalnum,
      roles.rebuilt shown successful arguments someAttempts triesWidth⟩

theorem slot_state_survives_restart_fixture :
    ((device.run fixtureMachine promotingEvents).toSlotDocuments Char.isAlphanum).map
        slotFromDocument =
      slotLabels.map
        (fun label => .ok (some ((device.run fixtureMachine promotingEvents).slots.get label))) ∧
    ∀ active arguments, (device.run fixtureMachine promotingEvents).active = .ok active →
      active.successful = true → 1 ≤ arguments.maxAttempts → arguments.maxAttempts ≤ 7 →
      ∃ rebuilt, machineFromSlotDocuments
        ((device.run fixtureMachine promotingEvents).toSlotDocuments Char.isAlphanum)
        arguments = .ok (some rebuilt) ∧
          Rebuilt (device.run fixtureMachine promotingEvents) rebuilt :=
  slot_state_survives_restart Char.isAlphanum fixtureConfiguration _ fixtureMachine
    fixtureMachine_built
    (by
      intro label
      cases label <;> constructor <;> simp [fixtureMachine, provenSlot, emptySlot, goodDigest])
    promotingEvents (by simp [promotingEvents, Event.TextsShown, badDigest])

end SourceosBoot.AbUpdate
