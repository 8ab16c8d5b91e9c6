import SourceosBoot.AbUpdate.MachineHistory
import SourceosBoot.AbUpdate.SlotConformance

set_option autoImplicit false

-- Each transaction starts from the documents the one before it left behind, at whatever point it
-- was left. The documents say nothing of the phase.

namespace SourceosBoot.AbUpdate

open Python Transition Schema

theorem machineFromSlotDocuments_builds {left right : List (String × Json)}
    {leftSlot rightSlot : SlotState} (describesLeft : Describes left leftSlot)
    (describesRight : Describes right rightSlot) (arguments : MachineArguments) (target : String)
    (leftTarget : Json.lookup "targetRef" left = some (.str target))
    (rightTarget : Json.lookup "targetRef" right = some (.str target))
    (apart : rightSlot.slot = leftSlot.slot.other) (fallback : SlotLabel)
    (active : ((SlotTable.ofPair leftSlot rightSlot apart).get fallback).role = .active)
    (candidate : ((SlotTable.ofPair leftSlot rightSlot apart).get fallback.other).role = .candidate)
    (successful : ((SlotTable.ofPair leftSlot rightSlot apart).get fallback).successful = true)
    (someAttempts : 1 ≤ arguments.maxAttempts) (triesWidth : arguments.maxAttempts ≤ 7) :
    machineFromSlotDocuments [.obj left, .obj right] arguments = .ok (some {
      config := { arguments with targetRef := target }
      slots := .ofPair leftSlot rightSlot apart }) := by
  have init := postInit_builds { arguments with targetRef := target } (dictionary leftSlot rightSlot)
    _ (slotTable_apart leftSlot rightSlot apart) fallback active candidate successful someAttempts
    triesWidth
  rw [machineFromSlotDocuments_described describesLeft describesRight arguments leftTarget
    rightTarget, init]
  rfl

theorem machineFromSlotDocuments_budget (docs : List Json) (arguments : MachineArguments)
    (machine : Machine) (built : machineFromSlotDocuments docs arguments = .ok (some machine)) :
    1 ≤ arguments.maxAttempts ∧ arguments.maxAttempts ≤ 7 := by
  unfold machineFromSlotDocuments at built
  split at built
  · obtain ⟨_, _, built⟩ := (bind_ok _ _ _).mp built
    obtain ⟨_, _, built⟩ := (bind_ok _ _ _).mp built
    obtain ⟨_, built⟩ := (then_ok _ _ _).mp built
    obtain ⟨_, _, built⟩ := (bind_ok _ _ _).mp built
    obtain ⟨_, _, built⟩ := (bind_ok _ _ _).mp built
    split at built
    · obtain ⟨made, init, _⟩ := (bind_ok _ _ _).mp built
      obtain ⟨_, initial⟩ := postInit_initial _ _ made init
      have ⟨_, config⟩ := postInit_fields _ _ made init
      have someAttempts := initial.someAttempts
      have triesWidth := initial.triesWidth
      rw [config] at someAttempts triesWidth
      exact ⟨someAttempts, triesWidth⟩
    · cases built
  · cases built

def Machine.restarted (machine : Machine) (arguments : MachineArguments) : Machine where
  config := { arguments with targetRef := machine.config.targetRef }
  slots := .ofPair (machine.slots.get .A).shown (machine.slots.get .B).shown (by
    simp [SlotState.shown, machine.slots.labelled, SlotLabel.other])

theorem restarted_get (machine : Machine) (arguments : MachineArguments) (label : SlotLabel) :
    (machine.restarted arguments).slots.get label = (machine.slots.get label).shown := by
  cases label <;> simp [Machine.restarted, SlotState.shown, machine.slots.labelled]

theorem ContractSlot.shown {slot : SlotState} (contract : ContractSlot slot) :
    ContractSlot slot.shown := by
  have digest := shown_of_nonempty contract.digest
  constructor
  case successful => simpa [SlotState.shown, digest] using contract.successful
  case digest => simpa [SlotState.shown, digest] using contract.digest
  case writing => exact contract.writing
  case active => exact contract.active
  case unbootable => exact contract.unbootable
  case good => exact contract.good
  case priority => exact contract.priority
  case tries => exact contract.tries

theorem SlotTexts.shown {slot : SlotState} (texts : SlotTexts slot) : SlotTexts slot.shown where
  digest := fun text held => texts.digest text (shown_nonempty held).1
  verdict := fun text held => texts.verdict text (shown_nonempty held).1

def Machine.goodSlot (machine : Machine) (fallback : SlotLabel) : SlotLabel :=
  if machine.phase = .promoted then fallback.other else fallback

theorem Standing.good_roles {fallback : SlotLabel} {machine : Machine}
    (standing : Standing fallback machine) : HoldsRoles machine (machine.goodSlot fallback) := by
  by_cases promoted : machine.phase = .promoted
  · simpa [Machine.goodSlot, promoted] using standing.swapped promoted
  · simpa [Machine.goodSlot, promoted] using standing.roles promoted

section Roles

variable {label : SlotLabel} {machine : Machine} (roles : HoldsRoles machine label)
  (successful : (machine.slots.get label).successful = true) (arguments : MachineArguments)
  (someAttempts : 1 ≤ arguments.maxAttempts) (triesWidth : arguments.maxAttempts ≤ 7)
include roles successful someAttempts triesWidth

theorem HoldsRoles.restarted : Initial label (machine.restarted arguments) where
  fresh := rfl
  roles := by
    constructor
    · simpa [restarted_get, SlotState.shown] using roles.active
    · simpa [restarted_get, SlotState.shown] using roles.candidate
  successful := by simpa [restarted_get, SlotState.shown] using successful
  someAttempts := someAttempts
  triesWidth := triesWidth

theorem HoldsRoles.restart (isalnum : Char → Bool) :
    machineFromSlotDocuments (machine.toSlotDocuments isalnum) arguments =
      .ok (some (machine.restarted arguments)) := by
  have initial := roles.restarted successful arguments someAttempts triesWidth
  have describes (label : SlotLabel) :=
    slotMembers_describes isalnum machine.config.targetRef label (machine.slots.get label)
  have target (label : SlotLabel) : Json.lookup "targetRef"
      (slotMembers isalnum machine.config.targetRef label (machine.slots.get label)) = _ :=
    slotMembers_fixed isalnum _ label _ rfl
  exact machineFromSlotDocuments_builds (describes .A) (describes .B) arguments
    machine.config.targetRef (target .A) (target .B) _ label
    initial.roles.active initial.roles.candidate initial.successful someAttempts triesWidth

end Roles

section Restart

variable {fallback : SlotLabel} {machine : Machine} (sound : Sound fallback machine)
  (contract : ∀ label, ContractSlot (machine.slots.get label)) (arguments : MachineArguments)
  (someAttempts : 1 ≤ arguments.maxAttempts) (triesWidth : arguments.maxAttempts ≤ 7)
include sound contract someAttempts triesWidth

theorem restarted_initial : Initial (machine.goodSlot fallback) (machine.restarted arguments) := by
  have roles := sound.standing.good_roles
  exact roles.restarted ((contract _).active roles.active).1 arguments someAttempts triesWidth

theorem restarted_contracted :
    Contracted (machine.goodSlot fallback) (machine.restarted arguments) := by
  apply contracted_of_slots
  · exact restarted_initial sound contract arguments someAttempts triesWidth
  · intro label
    rw [restarted_get]
    exact (contract label).shown
  · have oneRunning := sound.fit.oneRunning
    unfold OneRunning at oneRunning ⊢
    by_cases promoted : machine.phase = .promoted <;>
      simp [restarted_get, SlotState.shown, Machine.goodSlot, promoted, oneRunning]

theorem toSlotDocuments_restart (isalnum : Char → Bool) :
    machineFromSlotDocuments (machine.toSlotDocuments isalnum) arguments =
      .ok (some (machine.restarted arguments)) := by
  have roles := sound.standing.good_roles
  exact roles.restart ((contract _).active roles.active).1 arguments someAttempts triesWidth isalnum

end Restart

/-- The documents `docs` are reached from `first` by the transactions of `past`, each of them a
machine with the events it was driven by. -/
inductive Chain (isalnum : Char → Bool) (first : List Json) :
    List (Machine × List Event) → List Json → Prop
  | start : Chain isalnum first [] first
  | restart (past : List (Machine × List Event)) (docs : List Json)
      (chain : Chain isalnum first past docs) (arguments : MachineArguments) (machine : Machine)
      (built : machineFromSlotDocuments docs arguments = .ok (some machine)) (events : List Event)
      (wellFormed : ∀ event ∈ events, event.WellFormed) :
      Chain isalnum first (past ++ [(machine, events)])
        ((device.run machine events).toSlotDocuments isalnum)

def Promotes (transaction : Machine × List Event) (digest : String) : Prop :=
  (device.run transaction.1 transaction.2).phase = .promoted ∧
    ∃ failures, PromotedBy transaction.1.config.maxAttempts
      (acceptedRun transaction.1 transaction.2) digest failures

def KnownGood (first : List Json) (past : List (Machine × List Event)) (digest : String) : Prop :=
  (∃ doc ∈ first, hasMember doc "role" (.str "active") = true ∧
    doc.get? "payloadDigest" = some (.str digest)) ∨
  ∃ transaction ∈ past, Promotes transaction digest

theorem KnownGood.later {first : List Json} {past : List (Machine × List Event)} {digest : String}
    (known : KnownGood first past digest) (more : List (Machine × List Event)) :
    KnownGood first (past ++ more) digest := by
  cases known with
  | inl initial => exact .inl initial
  | inr promoted =>
    have ⟨transaction, listed, promotes⟩ := promoted
    exact .inr ⟨transaction, List.mem_append_left _ listed, promotes⟩

structure Ready (fallback : SlotLabel) (machine : Machine) (known : String → Prop) : Prop where
  contracted : Contracted fallback machine
  texts : ∀ label, SlotTexts (machine.slots.get label)
  digest : ∃ digest, (machine.slots.get fallback).payloadDigest = some digest ∧ known digest

theorem Ready.good_digest {fallback : SlotLabel} {machine : Machine} {first : List Json}
    {past : List (Machine × List Event)} (ready : Ready fallback machine (KnownGood first past))
    (events : List Event) :
    ∃ digest, ((device.run machine events).slots.get
        ((device.run machine events).goodSlot fallback)).payloadDigest = some digest ∧
      KnownGood first (past ++ [(machine, events)]) digest := by
  have ⟨sound, history⟩ := run_history ready.contracted events
  by_cases promoted : (device.run machine events).phase = .promoted
  · have opened : (device.run machine events).phase ≠ .idle := by simp [promoted]
    obtain ⟨failures, by_probe⟩ := history.promoted_by promoted
    rw [run_config ready.contracted.sound.standing events] at by_probe
    refine ⟨(device.run machine events).candidateDigest, ?_, .inr ⟨(machine, events), ?_, ?_⟩⟩
    · simpa [Machine.goodSlot, promoted] using sound.stage.digest opened
    · simp
    · exact ⟨promoted, failures, by_probe⟩
  · have ⟨digest, held, known⟩ := ready.digest
    have kept := (run_kept ready.contracted.sound.standing events).payloadDigest
    exact ⟨digest, by simp [Machine.goodSlot, promoted, kept, held], known.later _⟩

def Restarts (docs : List Json) (known : String → Prop) : Prop :=
  ∀ arguments : MachineArguments, 1 ≤ arguments.maxAttempts → arguments.maxAttempts ≤ 7 →
    ∃ fallback machine, machineFromSlotDocuments docs arguments = .ok (some machine) ∧
      Ready fallback machine known

theorem ContractPair.restarts {left right : Json} (pair : ContractPair left right)
    (apart : left.get? "slot" ≠ right.get? "slot") :
    Restarts [left, right] (KnownGood [left, right] []) := by
  intro arguments someAttempts triesWidth
  have ⟨machine, built⟩ := contract_pair_builds left right arguments pair apart someAttempts triesWidth
  have ⟨fallback, contracted⟩ := built.contracted
  refine ⟨fallback, machine, built.built, contracted, built.texts, ?_⟩
  obtain ⟨members, listed, describes, _⟩ := built.described fallback
  obtain ⟨digest, held⟩ := Option.ne_none_iff_exists'.mp contracted.fit.digest
  have active := describes.active
  rw [decide_eq_true contracted.initial.roles.active] at active
  exact ⟨digest, held, .inl ⟨_, listed, active, lookup_of_text (held ▸ describes.payloadDigest)⟩⟩

theorem Ready.restarts {fallback : SlotLabel} {machine : Machine} {first : List Json}
    {past : List (Machine × List Event)} (ready : Ready fallback machine (KnownGood first past))
    (isalnum : Char → Bool) (events : List Event)
    (wellFormed : ∀ event ∈ events, event.WellFormed) :
    Restarts ((device.run machine events).toSlotDocuments isalnum)
      (KnownGood first (past ++ [(machine, events)])) := by
  intro arguments someAttempts triesWidth
  have sound := run_sound ready.contracted.sound events
  have contract := ready.contracted.run_contract ready.texts events wellFormed
  have conforming := run_conforming (ready.contracted.conforming ready.texts) events wellFormed
  have ⟨digest, held, known⟩ := ready.good_digest events
  refine ⟨(device.run machine events).goodSlot fallback,
    (device.run machine events).restarted arguments,
    toSlotDocuments_restart sound contract arguments someAttempts triesWidth isalnum,
    restarted_contracted sound contract arguments someAttempts triesWidth, ?_, digest, ?_, known⟩
  · intro label
    rw [restarted_get]
    exact (conforming.texts label).shown
  · rw [restarted_get]
    exact (shown_of_nonempty (contract _).digest).trans held

theorem Chain.restarts {isalnum : Char → Bool} {left right : Json}
    {past : List (Machine × List Event)} {docs : List Json}
    (chain : Chain isalnum [left, right] past docs) (pair : ContractPair left right)
    (apart : left.get? "slot" ≠ right.get? "slot") :
    Restarts docs (KnownGood [left, right] past) := by
  induction chain with
  | start => exact pair.restarts apart
  | restart past docs _ arguments machine built events wellFormed ih =>
    have ⟨someAttempts, triesWidth⟩ := machineFromSlotDocuments_budget docs arguments machine built
    obtain ⟨fallback, same, rebuilt, ready⟩ := ih arguments someAttempts triesWidth
    obtain rfl : machine = same := by simpa [built] using rebuilt
    exact ready.restarts isalnum events wellFormed

structure HoldsKnownGood (machine : Machine) (known : String → Prop) : Prop where
  oneActive : ∃! label, (machine.slots.get label).role = .active
  active : ∀ label, (machine.slots.get label).role = .active →
    (machine.slots.get label).successful = true ∧ 1 ≤ (machine.slots.get label).bootPriority ∧
      ∃ digest, (machine.slots.get label).payloadDigest = some digest ∧ known digest

theorem Contracted.begins {fallback : SlotLabel} {machine : Machine}
    (contracted : Contracted fallback machine) (payloadDigest : String)
    (payloadRef version : Option String) :
    ∃ result after, device.step machine (.begin payloadDigest payloadRef version) =
      (.ok result, after) ∧ result.allowed = true := by
  have edge := @Edge.begin fallback machine payloadDigest payloadRef version contracted.initial.idle
  have checked := (edge.sound contracted.sound).checked edge.leaves_idle
  have ⟨reason, step⟩ := (edge_takes contracted.sound.standing edge).passes
    ((assertInvariants_ok _).mpr checked)
  exact ⟨_, _, step, rfl⟩

/-- Whatever the transactions of a chain do, the next one starts, and the known good payload stands. -/
theorem known_good_survives (left right : Json) (pair : ContractPair left right)
    (apart : left.get? "slot" ≠ right.get? "slot") (isalnum : Char → Bool)
    (past : List (Machine × List Event)) (docs : List Json)
    (chain : Chain isalnum [left, right] past docs) (arguments : MachineArguments)
    (someAttempts : 1 ≤ arguments.maxAttempts) (triesWidth : arguments.maxAttempts ≤ 7) :
    ∃ machine, machineFromSlotDocuments docs arguments = .ok (some machine) ∧
      (∀ payloadDigest payloadRef version, ∃ result after,
        device.step machine (.begin payloadDigest payloadRef version) = (.ok result, after) ∧
          result.allowed = true) ∧
      ∀ events, (∀ event ∈ events, event.WellFormed) →
        HoldsKnownGood (device.run machine events)
          (KnownGood [left, right] (past ++ [(machine, events)])) := by
  obtain ⟨fallback, machine, built, ready⟩ :=
    chain.restarts pair apart arguments someAttempts triesWidth
  refine ⟨machine, built, ready.contracted.begins, fun events wellFormed => ?_⟩
  have roles := (run_sound ready.contracted.sound events).standing.good_roles
  have oneActive := (ready.contracted.consistent events).active
  have contract := ready.contracted.run_contract ready.texts events wellFormed
  refine ⟨oneActive, fun label active => ?_⟩
  have ⟨successful, bootable⟩ := (contract label).active active
  obtain rfl := oneActive.unique active roles.active
  exact ⟨successful, bootable, ready.good_digest events⟩

theorem known_good_survives_example :
    ∃ machine,
      machineFromSlotDocuments
        ((device.run exampleMachine promotingEvents).toSlotDocuments Char.isAlphanum)
        exampleArguments = .ok (some machine) ∧
      (∀ payloadDigest payloadRef version, ∃ result after,
        device.step machine (.begin payloadDigest payloadRef version) = (.ok result, after) ∧
          result.allowed = true) ∧
      ∀ events, (∀ event ∈ events, event.WellFormed) →
        HoldsKnownGood (device.run machine events)
          (KnownGood [exampleActive, exampleCandidate]
            ([] ++ [(exampleMachine, promotingEvents)] ++ [(machine, events)])) :=
  known_good_survives exampleActive exampleCandidate exampleMachine_built.pair
    (by simp [exampleActive, exampleCandidate, Json.get?, Json.lookup]) Char.isAlphanum _ _
    (.restart [] _ .start exampleArguments exampleMachine exampleMachine_built.built promotingEvents
      (by simp [promotingEvents, Event.WellFormed]; decide +kernel))
    exampleArguments (by decide) (by decide)

end SourceosBoot.AbUpdate
