import SourceosBoot.AbUpdate.MachineInvariants
import SourceosBoot.AbUpdate.SlotContract

set_option autoImplicit false

-- Two valid documents of one target, exactly one of them active and exactly one running: for these
-- the runtime check never fires.

namespace SourceosBoot.AbUpdate

open Python Transition Schema

structure ContractPair (left right : Json) : Prop where
  leftValid : updateSlotSchema.valid left = true
  rightValid : updateSlotSchema.valid right = true
  oneTarget : left.get? "targetRef" = right.get? "targetRef"
  oneActive : [left, right].countP (hasMember · "role" (.str "active")) = 1
  oneRunning : [left, right].countP (hasMember · "currentlyRunning" (.bool true)) = 1

theorem ContractPair.valid {left right : Json} (pair : ContractPair left right) {doc : Json}
    (listed : doc ∈ [left, right]) : updateSlotSchema.valid doc = true := by
  simp only [List.mem_cons, List.not_mem_nil, or_false] at listed
  rcases listed with rfl | rfl
  · exact pair.leftValid
  · exact pair.rightValid

structure BuiltFrom (left right : Json) (arguments : MachineArguments) (machine : Machine) :
    Prop where
  pair : ContractPair left right
  built : machineFromSlotDocuments [left, right] arguments = .ok (some machine)

structure Contracted (fallback : SlotLabel) (machine : Machine) : Prop where
  initial : Initial fallback machine
  fit : Fit fallback machine
  slots : ∀ label, ContractSlot (machine.slots.get label)

theorem Describes.active {members : List (String × Json)} {slot : SlotState}
    (describes : Describes members slot) :
    hasMember (.obj members) "role" (.str "active") = decide (slot.role = .active) := by
  cases known : slot.role <;>
    simp [hasMember, Json.get?, describes.role, known, Role.name, Json.jsonEq, Json.same]

theorem Describes.running {members : List (String × Json)} {slot : SlotState}
    (describes : Describes members slot) :
    hasMember (.obj members) "currentlyRunning" (.bool true) = slot.currentlyRunning := by
  cases known : slot.currentlyRunning <;>
    simp [hasMember, Json.get?, describes.currentlyRunning, known, Json.jsonEq, Json.same]

theorem slotTable_dictionary (left right : SlotState) (slots : SlotTable)
    (built : slotTable (dictionary left right) = .ok slots) :
    ∃ apart, slots = SlotTable.ofPair left right apart := by
  obtain ⟨_, _, apart, items, rfl⟩ := slotTable_ok built
  by_cases same : right.slot = left.slot
  · simp [dictionary, same] at items
  · simp only [dictionary, if_neg same, List.cons.injEq, Prod.mk.injEq] at items
    obtain ⟨⟨_, rfl⟩, ⟨_, rfl⟩, _⟩ := items
    exact ⟨apart, rfl⟩

theorem postInit_fields (config : Configuration) (items : List (String × SlotState))
    (machine : Machine) (built : Machine.postInit config items = .ok machine) :
    slotTable items = .ok machine.slots ∧ machine.config = config := by
  obtain ⟨slots, table, checks⟩ := (bind_ok _ _ _).mp built
  split at checks
  · obtain ⟨_, checks⟩ := (then_ok _ _ _).mp checks
    obtain ⟨_, returned⟩ := (then_ok _ _ _).mp checks
    cases returned
    exact ⟨table, rfl⟩
  · exact absurd checks (by simp [raise])

theorem machineFromSlotDocuments_target {left right : List (String × Json)}
    {leftSlot rightSlot : SlotState} (describesLeft : Describes left leftSlot)
    (describesRight : Describes right rightSlot) (arguments : MachineArguments) (machine : Machine)
    (built : machineFromSlotDocuments [.obj left, .obj right] arguments = .ok (some machine)) :
    ∃ targetRef, Json.lookup "targetRef" left = some (.str targetRef) ∧
      Json.lookup "targetRef" right = some (.str targetRef) ∧
      Machine.postInit { arguments with targetRef := targetRef }
        (dictionary leftSlot rightSlot) = .ok machine := by
  have held {members : List (String × Json)} {target : Json}
      (read : targetOf (.obj members) = .ok target) :
      Json.lookup "targetRef" members = some target := by
    obtain ⟨item, found, checks⟩ := (bind_ok _ _ _).mp read
    obtain ⟨_, returned⟩ := (then_ok _ _ _).mp checks
    cases returned
    exact (Json.getItem_obj _ _ _).mp found
  obtain ⟨target, leftTarget, built⟩ := (bind_ok _ _ _).mp built
  obtain ⟨otherTarget, rightTarget, built⟩ := (bind_ok _ _ _).mp built
  obtain ⟨same, built⟩ := (then_ok _ _ _).mp built
  rw [raiseWhen_ok, Bool.not_eq_false] at same
  rw [describesLeft.read, describesRight.read] at built
  cases text : asText target with
  | none => simp [text, bind, Except.bind, pure, Except.pure] at built
  | some targetRef =>
    have textual : target = .str targetRef := by
      cases target <;> simp_all [asText]
    have shared : otherTarget = .str targetRef := by
      rw [textual] at same
      exact (Json.same_str _ _ _).mp same
    simp only [text] at built
    obtain ⟨_, read, built⟩ := (bind_ok _ _ _).mp built
    cases read
    obtain ⟨_, read, built⟩ := (bind_ok _ _ _).mp built
    cases read
    obtain ⟨made, init, returned⟩ := (bind_ok _ _ _).mp built
    cases returned
    exact ⟨targetRef, textual ▸ held leftTarget, shared ▸ held rightTarget, init⟩

theorem machineFromSlotDocuments_read {left right : List (String × Json)}
    {leftSlot rightSlot : SlotState} (describesLeft : Describes left leftSlot)
    (describesRight : Describes right rightSlot) (arguments : MachineArguments) (machine : Machine)
    (built : machineFromSlotDocuments [.obj left, .obj right] arguments = .ok (some machine)) :
    ∃ targetRef, Machine.postInit { arguments with targetRef := targetRef }
      (dictionary leftSlot rightSlot) = .ok machine := by
  obtain ⟨targetRef, _, _, init⟩ :=
    machineFromSlotDocuments_target describesLeft describesRight arguments machine built
  exact ⟨targetRef, init⟩

theorem BuiltFrom.described {left right : Json} {arguments : MachineArguments} {machine : Machine}
    (built : BuiltFrom left right arguments machine) (label : SlotLabel) :
    ∃ members, .obj members ∈ [left, right] ∧
      Describes members (machine.slots.get label) ∧
      Json.lookup "targetRef" members = some (.str machine.config.targetRef) := by
  obtain ⟨pair, built⟩ := built
  obtain ⟨leftMembers, leftSlot, rfl, describesLeft⟩ := describes_of_valid left pair.leftValid
  obtain ⟨rightMembers, rightSlot, rfl, describesRight⟩ := describes_of_valid right pair.rightValid
  obtain ⟨targetRef, leftTarget, rightTarget, init⟩ :=
    machineFromSlotDocuments_target describesLeft describesRight arguments machine built
  obtain ⟨table, config⟩ := postInit_fields _ _ machine init
  obtain ⟨apart, slots⟩ := slotTable_dictionary leftSlot rightSlot machine.slots table
  rw [slots, SlotTable.ofPair_get, config]
  split
  · exact ⟨leftMembers, by simp, describesLeft, leftTarget⟩
  · exact ⟨rightMembers, by simp, describesRight, rightTarget⟩

theorem BuiltFrom.texts {left right : Json} {arguments : MachineArguments} {machine : Machine}
    (built : BuiltFrom left right arguments machine) (label : SlotLabel) :
    SlotTexts (machine.slots.get label) := by
  obtain ⟨_, listed, describes, _⟩ := built.described label
  exact describes.texts (built.pair.valid listed)

theorem BuiltFrom.target {left right : Json} {arguments : MachineArguments} {machine : Machine}
    (built : BuiltFrom left right arguments machine) :
    Pattern.search ⟨.literal "urn:srcos:", false⟩ machine.config.targetRef = true := by
  obtain ⟨_, member, _, target⟩ := built.described .A
  have listed : ("targetRef", {
      type := some ["string"], pattern := some ⟨.literal "urn:srcos:", false⟩ }) ∈
      updateSlotSchema.properties := by simp [updateSlotSchema]
  exact (property_satisfied (built.pair.valid member) listed target).pattern

theorem contracted_of_slots {fallback : SlotLabel} {machine : Machine}
    (initial : Initial fallback machine)
    (slots : ∀ label, ContractSlot (machine.slots.get label))
    (oneRunning : OneRunning fallback machine) : Contracted fallback machine where
  initial := initial
  slots := slots
  fit := {
    digest := (slots fallback).successful initial.successful
    notWriting := fun writing => by
      simpa [initial.roles.active] using (slots fallback).writing writing
    notUnbootable := fun unbootable => by
      simpa [initial.successful] using ((slots fallback).unbootable unbootable).2
    oneRunning := oneRunning }

theorem BuiltFrom.contracted {left right : Json} {arguments : MachineArguments} {machine : Machine}
    (built : BuiltFrom left right arguments machine) : ∃ fallback, Contracted fallback machine := by
  obtain ⟨pair, built⟩ := built
  obtain ⟨leftMembers, leftSlot, rfl, describesLeft⟩ := describes_of_valid left pair.leftValid
  obtain ⟨rightMembers, rightSlot, rfl, describesRight⟩ := describes_of_valid right pair.rightValid
  obtain ⟨targetRef, init⟩ :=
    machineFromSlotDocuments_read describesLeft describesRight arguments machine built
  obtain ⟨fallback, initial⟩ := postInit_initial _ _ machine init
  obtain ⟨table, _⟩ := postInit_fields _ _ machine init
  obtain ⟨apart, slots⟩ := slotTable_dictionary leftSlot rightSlot machine.slots table
  have contract (label : SlotLabel) : ContractSlot (machine.slots.get label) := by
    obtain ⟨_, listed, describes, _⟩ := (BuiltFrom.mk pair built).described label
    exact describes.contract (pair.valid listed)
  have oneRunning : OneRunning fallback machine := by
    have running := pair.oneRunning
    simp only [List.countP_cons, describesLeft.running, describesRight.running,
      List.countP_nil] at running
    unfold OneRunning
    rcases SlotLabel.eq_or_other fallback leftSlot.slot with rfl | rfl <;>
      cases known : leftSlot.currentlyRunning <;> cases knownRight : rightSlot.currentlyRunning <;>
      simp_all
  exact ⟨fallback, contracted_of_slots initial contract oneRunning⟩

theorem BuiltFrom.arguments {left right : Json} {arguments : MachineArguments} {machine : Machine}
    (built : BuiltFrom left right arguments machine) :
    machine.config.toMachineArguments = arguments := by
  obtain ⟨pair, built⟩ := built
  obtain ⟨_, _, rfl, describesLeft⟩ := describes_of_valid left pair.leftValid
  obtain ⟨_, _, rfl, describesRight⟩ := describes_of_valid right pair.rightValid
  obtain ⟨targetRef, init⟩ :=
    machineFromSlotDocuments_read describesLeft describesRight arguments machine built
  rw [(postInit_fields _ _ machine init).2]

theorem Contracted.sound {fallback : SlotLabel} {machine : Machine}
    (contracted : Contracted fallback machine) : Sound fallback machine :=
  contracted.initial.sound contracted.fit

theorem slotTable_apart (left right : SlotState) (apart : right.slot = left.slot.other) :
    slotTable (dictionary left right) = .ok (SlotTable.ofPair left right apart) := by
  have different : right.slot ≠ left.slot := by simp [apart]
  rw [dictionary, if_neg different, slotTable_pair]

theorem postInit_builds (config : Configuration) (items : List (String × SlotState))
    (slots : SlotTable) (table : slotTable items = .ok slots) (fallback : SlotLabel)
    (active : (slots.get fallback).role = .active)
    (candidate : (slots.get fallback.other).role = .candidate)
    (successful : (slots.get fallback).successful = true)
    (someAttempts : 1 ≤ config.maxAttempts) (triesWidth : config.maxAttempts ≤ 7) :
    Machine.postInit config items = .ok { config := config, slots := slots } := by
  have only : slots.values.filter (fun slot => slot.role = .active) = [slots.get fallback] := by
    rcases SlotLabel.eq_or_other fallback slots.first with same | same <;> subst same <;>
      simp_all [SlotTable.values]
  have budget : ¬ (config.maxAttempts < 1 ∨ config.maxAttempts > 7) := by omega
  simp only [Machine.postInit, table, bind, Except.bind, only]
  simp [successful, raiseWhen, budget, pure, Except.pure]

theorem target_of_valid {members : List (String × Json)}
    (valid : updateSlotSchema.valid (.obj members) = true) :
    ∃ text, Json.lookup "targetRef" members = some (.str text) := by
  obtain ⟨item, found⟩ := required_member valid "targetRef" (by simp [updateSlotSchema])
  obtain ⟨text, rfl⟩ := typed_string item
    (property_satisfied valid (by simp [updateSlotSchema]; rfl) found).type
  exact ⟨text, found⟩

theorem machineFromSlotDocuments_described {left right : List (String × Json)}
    {leftSlot rightSlot : SlotState} (describesLeft : Describes left leftSlot)
    (describesRight : Describes right rightSlot) (arguments : MachineArguments) {target : String}
    (leftTarget : Json.lookup "targetRef" left = some (.str target))
    (rightTarget : Json.lookup "targetRef" right = some (.str target)) :
    machineFromSlotDocuments [.obj left, .obj right] arguments = (do
      let machine ← Machine.postInit { arguments with targetRef := target }
        (dictionary leftSlot rightSlot)
      return some machine) := by
  have same : Json.same true (.str target) (.str target) = true := by simp
  simp [machineFromSlotDocuments, targetOf, Json.getItem, leftTarget, rightTarget, Json.hashable,
    raiseWhen, Json.pyEq, same, describesLeft.read, describesRight.read, asText, bind, Except.bind,
    pure, Except.pure]

theorem ContractPair.targets {left right : List (String × Json)}
    (pair : ContractPair (.obj left) (.obj right)) :
    ∃ target, Json.lookup "targetRef" left = some (.str target) ∧
      Json.lookup "targetRef" right = some (.str target) := by
  obtain ⟨target, leftTarget⟩ := target_of_valid pair.leftValid
  exact ⟨target, leftTarget, by simpa [Json.get?, leftTarget, eq_comm] using pair.oneTarget⟩

theorem ContractPair.machine {left right : Json} (pair : ContractPair left right)
    {arguments : MachineArguments} {found : Option Machine}
    (built : machineFromSlotDocuments [left, right] arguments = .ok found) :
    ∃ machine, found = some machine := by
  obtain ⟨leftMembers, leftSlot, rfl, describesLeft⟩ := describes_of_valid left pair.leftValid
  obtain ⟨rightMembers, rightSlot, rfl, describesRight⟩ := describes_of_valid right pair.rightValid
  obtain ⟨target, leftTarget, rightTarget⟩ := pair.targets
  rw [machineFromSlotDocuments_described describesLeft describesRight arguments leftTarget
    rightTarget] at built
  obtain ⟨machine, _, returned⟩ := (bind_ok _ _ _).mp built
  cases returned
  exact ⟨machine, rfl⟩

/-- Two valid documents of one target, labelled A and B, exactly one of them active. -/
structure LabelledPair (left right : Json) : Prop where
  leftValid : updateSlotSchema.valid left = true
  rightValid : updateSlotSchema.valid right = true
  oneTarget : left.get? "targetRef" = right.get? "targetRef"
  oneActive : [left, right].countP (hasMember · "role" (.str "active")) = 1
  apart : left.get? "slot" ≠ right.get? "slot"

theorem ContractPair.labelled {left right : Json} (pair : ContractPair left right)
    (apart : left.get? "slot" ≠ right.get? "slot") : LabelledPair left right where
  leftValid := pair.leftValid
  rightValid := pair.rightValid
  oneTarget := pair.oneTarget
  oneActive := pair.oneActive
  apart := apart

structure DescribesPair (left right : List (String × Json)) (leftSlot rightSlot : SlotState)
    (target : String) : Prop where
  leftHolds : Describes left leftSlot
  rightHolds : Describes right rightSlot
  leftTarget : Json.lookup "targetRef" left = some (.str target)
  rightTarget : Json.lookup "targetRef" right = some (.str target)
  apart : rightSlot.slot = leftSlot.slot.other

theorem LabelledPair.describes {left right : Json} (pair : LabelledPair left right) :
    ∃ leftMembers rightMembers leftSlot rightSlot target, left = .obj leftMembers ∧
      right = .obj rightMembers ∧
        DescribesPair leftMembers rightMembers leftSlot rightSlot target := by
  obtain ⟨leftMembers, leftSlot, rfl, describesLeft⟩ := describes_of_valid left pair.leftValid
  obtain ⟨rightMembers, rightSlot, rfl, describesRight⟩ := describes_of_valid right pair.rightValid
  obtain ⟨target, leftTarget⟩ := target_of_valid pair.leftValid
  have rightTarget : Json.lookup "targetRef" rightMembers = some (.str target) := by
    simpa [Json.get?, leftTarget, eq_comm] using pair.oneTarget
  have labels : rightSlot.slot = leftSlot.slot.other := by
    refine (SlotLabel.eq_or_other rightSlot.slot leftSlot.slot).resolve_left fun same =>
      pair.apart ?_
    simp [Json.get?, describesLeft.label, describesRight.label, same]
  exact ⟨leftMembers, rightMembers, leftSlot, rightSlot, target, rfl, rfl,
    describesLeft, describesRight, leftTarget, rightTarget, labels⟩

theorem LabelledPair.builds {left right : List (String × Json)} {leftSlot rightSlot : SlotState}
    {target : String} (pair : LabelledPair (.obj left) (.obj right))
    (describes : DescribesPair left right leftSlot rightSlot target) (arguments : MachineArguments)
    (someAttempts : 1 ≤ arguments.maxAttempts) (triesWidth : arguments.maxAttempts ≤ 7) :
    machineFromSlotDocuments [.obj left, .obj right] arguments = .ok (some {
      config := { arguments with targetRef := target }
      slots := .ofPair leftSlot rightSlot describes.apart }) := by
  have table := slotTable_apart leftSlot rightSlot describes.apart
  obtain ⟨fallback, active, candidate⟩ : ∃ fallback,
      ((SlotTable.ofPair leftSlot rightSlot describes.apart).get fallback).role = .active ∧
        ((SlotTable.ofPair leftSlot rightSlot describes.apart).get fallback.other).role =
          .candidate := by
    have one := pair.oneActive
    have labels := describes.apart
    simp only [List.countP_cons, describes.leftHolds.active, describes.rightHolds.active,
      List.countP_nil] at one
    cases first : leftSlot.role <;> cases second : rightSlot.role <;> simp_all
    · exact ⟨leftSlot.slot, by simp [first], by simp [second]⟩
    · exact ⟨leftSlot.slot.other, by simp [second], by simp [first]⟩
  have successful :
      ((SlotTable.ofPair leftSlot rightSlot describes.apart).get fallback).successful = true := by
    rw [SlotTable.ofPair_get] at active ⊢
    split at active
    · rename_i same
      rw [if_pos same]
      exact ((describes.leftHolds.contract pair.leftValid).active active).1
    · rename_i different
      rw [if_neg different]
      exact ((describes.rightHolds.contract pair.rightValid).active active).1
  rw [machineFromSlotDocuments_described describes.leftHolds describes.rightHolds arguments
    describes.leftTarget describes.rightTarget,
    postInit_builds _ _ _ table fallback active candidate successful someAttempts triesWidth]
  rfl

theorem contract_pair_builds (left right : Json) (arguments : MachineArguments)
    (pair : ContractPair left right) (apart : left.get? "slot" ≠ right.get? "slot")
    (someAttempts : 1 ≤ arguments.maxAttempts) (triesWidth : arguments.maxAttempts ≤ 7) :
    ∃ machine, BuiltFrom left right arguments machine := by
  have labelled := pair.labelled apart
  obtain ⟨_, _, _, _, _, rfl, rfl, describes⟩ := labelled.describes
  exact ⟨_, pair, labelled.builds describes arguments someAttempts triesWidth⟩

theorem resolveAmong_answers (machine : Machine) (observedDigest : Option String)
    (rules : List TransitionRule)
    (guarded : ∀ rule ∈ rules, ∀ name ∈ rule.guard,
      ∃ holds, machine.guard name observedDigest = .ok holds) :
    ∃ outcome, machine.resolveAmong observedDigest rules = .ok outcome := by
  induction rules with
  | nil => exact ⟨none, rfl⟩
  | cons rule rest ih =>
    obtain ⟨later, found⟩ := ih fun rule listed => guarded rule (List.mem_cons_of_mem _ listed)
    cases named : rule.guard with
    | none => exact ⟨some rule, by rw [Machine.resolveAmong, named]; rfl⟩
    | some name =>
      obtain ⟨holds, guard⟩ := guarded rule (by simp) name named
      simp only [Machine.resolveAmong, named, guard, found]
      cases holds
      · exact ⟨later, rfl⟩
      · exact ⟨some rule, rfl⟩

theorem offer_answers {fallback : SlotLabel} {machine : Machine}
    (standing : Standing fallback machine) (event : Event) :
    ∃ outcome, machine.offer event.name event.observedDigest = .ok outcome := by
  by_cases terminal : machine.phase ∈ terminalPhases
  · exact ⟨_, (offer_terminal machine event.name event.observedDigest terminal).choose_spec⟩
  have candidate := (standing.roles fun promoted => terminal (by simp [promoted,
    terminalPhases])).candidate_ok
  have named : ∀ rule ∈ transitionTable, ∀ name ∈ rule.guard,
      (rule.event = .writeComplete ∧ (name = "digest_matches" ∨ name = "digest_mismatch")) ∨
        name = "tries_remain" ∨ name = "tries_exhausted" := by decide
  obtain ⟨found, resolved⟩ := resolveAmong_answers machine event.observedDigest
    (index machine.phase event.name) (by
      intro rule listed name guard
      obtain ⟨inTable, here⟩ := List.mem_filter.mp listed
      -- The digest guards stand on `write_complete` alone, which always brings a digest.
      have sameEvent : rule.event = event.name := (of_decide_eq_true here).2
      rcases named rule inTable name guard with ⟨writes, digest⟩ | tries
      · obtain ⟨observed, rfl⟩ : ∃ observed, event = .writeComplete observed := by
          rw [sameEvent] at writes
          cases event <;> simp [Event.name] at writes ⊢
        rcases digest with rfl | rfl <;> exact ⟨_, rfl⟩
      · rcases tries with rfl | rfl <;>
          exact ⟨_, by simp [Machine.guard, candidate, bind, Except.bind, pure, Except.pure]; rfl⟩)
  rw [Machine.offer, if_neg terminal, Machine.resolve, resolved]
  cases found <;> exact ⟨_, rfl⟩

theorem run_idle {fallback : SlotLabel} {machine : Machine} (standing : Standing fallback machine)
    (events : List Event) (idle : (device.run machine events).phase = .idle) :
    device.run machine events = machine :=
  (run_edges (fun later => later.phase = .idle → later = machine)
    (fun _ _ edge idle => absurd idle edge.leaves_idle) standing (fun _ => rfl) events).2 idle

theorem one_of_two (wanted : SlotLabel → Prop) (label : SlotLabel) (holds : wanted label)
    (other : ¬ wanted label.other) : ∃! label, wanted label := by
  refine ⟨label, holds, fun found wants => ?_⟩
  rcases SlotLabel.eq_or_other found label with rfl | rfl
  · rfl
  · exact absurd wants other

structure Consistent (machine : Machine) : Prop where
  passes : machine.assertInvariants = .ok ()
  active : ∃! label, (machine.slots.get label).role = .active
  candidate : ∃! label, (machine.slots.get label).role = .candidate
  running : ∃! label, (machine.slots.get label).currentlyRunning = true
  guards : ∀ event : Event, ∃ outcome, machine.offer event.name event.observedDigest = .ok outcome

theorem Contracted.checked {fallback : SlotLabel} {machine : Machine}
    (contracted : Contracted fallback machine) : Checked machine := by
  obtain ⟨initial, fit, slots⟩ := contracted
  have idle := initial.idle
  constructor
  case preserved => simp [(initial.standing.unopened idle).1]
  case oneRunning => exact (machine.slots.count_one _ fallback).mpr fit.oneRunning
  case oneActive =>
    rw [machine.slots.count_one _ fallback]
    simp [initial.roles.active, initial.roles.candidate]
  case writesCandidate => exact fun label => (slots label).writing
  case unselectable => exact fun label unbootable => ((slots label).unbootable unbootable).1
  case trial => simp [idle]

theorem Contracted.consistent {fallback : SlotLabel} {machine : Machine}
    (contracted : Contracted fallback machine) (events : List Event) :
    Consistent (device.run machine events) := by
  have sound := run_sound contracted.sound events
  constructor
  case passes =>
    rw [assertInvariants_ok]
    by_cases idle : (device.run machine events).phase = .idle
    · rw [run_idle contracted.sound.standing events idle]
      exact contracted.checked
    · exact sound.checked idle
  case active =>
    by_cases promoted : (device.run machine events).phase = .promoted
    · have roles := sound.standing.swapped promoted
      exact one_of_two _ fallback.other roles.active (by rw [roles.candidate]; decide)
    · have roles := sound.standing.roles promoted
      exact one_of_two _ fallback roles.active (by simp [roles.candidate])
  case candidate =>
    by_cases promoted : (device.run machine events).phase = .promoted
    · have roles := sound.standing.swapped promoted
      exact one_of_two _ fallback.other.other roles.candidate (by simp [roles.active])
    · have roles := sound.standing.roles promoted
      exact one_of_two _ fallback.other roles.candidate (by simp [roles.active])
  case running =>
    have oneRunning := sound.fit.oneRunning
    unfold OneRunning at oneRunning
    cases home : ((device.run machine events).slots.get fallback).currentlyRunning
    · exact one_of_two _ fallback.other (by simpa [home] using oneRunning) (by simp [home])
    · exact one_of_two _ fallback home (by simpa [home] using oneRunning)
  case guards => exact offer_answers sound.standing

theorem contract_machine_never_raises (left right : Json) (arguments : MachineArguments)
    (machine : Machine) (built : BuiltFrom left right arguments machine) (events : List Event)
    (known : ∀ event ∈ events, event.Known) :
    (∀ entry ∈ device.trace machine events, ∃ result, entry.2 = .ok result) ∧
      Consistent (device.run machine events) := by
  obtain ⟨fallback, contracted⟩ := built.contracted
  refine ⟨fun entry listed => ?_, contracted.consistent events⟩
  obtain ⟨front, back, split, answer⟩ := device.mem_trace machine events entry listed
  have asked : entry.1.Known := known entry.1 (by simp [split])
  rcases (run_sound contracted.sound front).answers entry.1 with
    ⟨result, step, _⟩ | ⟨_, unknown, _⟩ | ⟨_, _, reason, _, _, step⟩
  · exact ⟨result, by rw [answer, step]⟩
  · exact absurd asked unknown
  · exact ⟨_, by rw [answer, step]⟩

def exampleArguments : MachineArguments where
  transactionId := "urn:srcos:update-transaction:sourceos_fog_edge_07_0001"
  healthProbeRef := "urn:srcos:update-health-probe:sourceos_node_v1"
  healthProbeDigest := "sha256:dddddddddddddddddddddddddddddddddddddddddddddddddddddddddddddddd"
  clock := fun _ => "2026-07-29T10:00:00Z"

def exampleActive : Json :=
  .obj [
    ("id", .str "urn:srcos:update-slot:sourceos_fog_edge_07_a"),
    ("type", .str "UpdateSlot"),
    ("specVersion", .str "0.1.0"),
    ("targetRef", .str "urn:srcos:node:sourceos_fog_edge_07"),
    ("slot", .str "A"),
    ("role", .str "active"),
    ("state", .str "good"),
    ("bootPriority", .int 15),
    ("triesRemaining", .int 0),
    ("successful", .bool true),
    ("currentlyRunning", .bool true),
    ("payloadDigest",
      .str "sha256:b73d34fdc15b73c8efeb4527811459b62addf6e4c4a69730f81244ff0beab97e"),
    ("payloadRef", .str "urn:srcos:image:sourceos_node_2026.07.3"),
    ("version", .str "2026.07.3"),
    ("installedAt", .str "2026-07-14T11:40:02.000Z"),
    ("lastBootedAt", .str "2026-07-14T11:52:18.000Z"),
    ("lastProbeVerdict", .str "pass")]

def exampleCandidate : Json :=
  .obj [
    ("id", .str "urn:srcos:update-slot:sourceos_fog_edge_07_b"),
    ("type", .str "UpdateSlot"),
    ("specVersion", .str "0.1.0"),
    ("targetRef", .str "urn:srcos:node:sourceos_fog_edge_07"),
    ("slot", .str "B"),
    ("role", .str "candidate"),
    ("state", .str "empty"),
    ("bootPriority", .int 1),
    ("triesRemaining", .int 0),
    ("successful", .bool false),
    ("currentlyRunning", .bool false),
    ("installedAt", .null),
    ("lastBootedAt", .null),
    ("lastProbeVerdict", .null)]

def exampleMachine : Machine where
  config := { exampleArguments with targetRef := "urn:srcos:node:sourceos_fog_edge_07" }
  slots := .ofPair {
    slot := .A
    role := .active
    state := .good
    bootPriority := 15
    triesRemaining := 0
    successful := true
    currentlyRunning := true
    payloadDigest :=
      some "sha256:b73d34fdc15b73c8efeb4527811459b62addf6e4c4a69730f81244ff0beab97e"
    payloadRef := some "urn:srcos:image:sourceos_node_2026.07.3"
    version := some "2026.07.3"
    lastProbeVerdict := some "pass" } {
    slot := .B
    role := .candidate
    state := .empty
    bootPriority := 1
    triesRemaining := 0
    successful := false
    currentlyRunning := false } rfl

theorem exampleMachine_built :
    BuiltFrom exampleActive exampleCandidate exampleArguments exampleMachine where
  pair := {
    leftValid := by decide +kernel
    rightValid := by decide +kernel
    oneTarget := rfl
    oneActive := by decide
    oneRunning := by decide }
  built := rfl

theorem contract_machine_never_raises_example :
    (∀ entry ∈ device.trace exampleMachine [.begin badDigest none none, .operatorAbort "late"],
      ∃ result, entry.2 = .ok result) ∧
      Consistent (device.run exampleMachine [.begin badDigest none none, .operatorAbort "late"]) :=
  contract_machine_never_raises exampleActive exampleCandidate exampleArguments exampleMachine
    exampleMachine_built _ (by simp [Event.Known])

end SourceosBoot.AbUpdate
