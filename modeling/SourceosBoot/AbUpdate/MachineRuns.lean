import SourceosBoot.AbUpdate.MachineEdges

set_option autoImplicit false

-- The slot that held the active role when the run started is the fallback of the whole run.

namespace SourceosBoot.AbUpdate

open Python Transition

def device : System Machine Event (Except Raised TransitionResult) := object call

structure Initial (fallback : SlotLabel) (machine : Machine) : Prop where
  fresh : machine = { config := machine.config, slots := machine.slots }
  roles : HoldsRoles machine fallback
  successful : (machine.slots.get fallback).successful = true
  someAttempts : 1 ≤ machine.config.maxAttempts
  triesWidth : machine.config.maxAttempts ≤ 7

theorem slots_one_active (slots : SlotTable) (slot : SlotState)
    (one : slots.values.filter (fun slot => slot.role = .active) = [slot]) :
    slots.get slot.slot = slot ∧ slot.role = .active ∧
      (slots.get slot.slot.other).role = .candidate := by
  have labels := slots.labelled
  -- The active slot is the first of the table or the second, and the other one is not active.
  have split (role : Role) (other : role ≠ .active) : role = .candidate := by
    cases role <;> simp_all
  by_cases first : (slots.get slots.first).role = .active <;>
    by_cases second : (slots.get slots.first.other).role = .active <;>
    simp [SlotTable.values, first, second] at one
  · subst one
    simp [labels, first, split _ second]
  · subst one
    simp [labels, second, split _ first]

theorem postInit_initial (config : Configuration) (items : List (String × SlotState))
    (machine : Machine) (built : Machine.postInit config items = .ok machine) :
    ∃ fallback, Initial fallback machine := by
  obtain ⟨slots, _, checks⟩ := (bind_ok _ _ _).mp built
  split at checks
  · rename_i active one
    obtain ⟨successful, checks⟩ := (then_ok _ _ _).mp checks
    obtain ⟨budget, returned⟩ := (then_ok _ _ _).mp checks
    rw [raiseWhen_ok] at successful budget
    cases returned
    obtain ⟨same, role, candidate⟩ := slots_one_active slots active one
    refine ⟨active.slot, rfl, ⟨?_, candidate⟩, ?_, ?_, ?_⟩
    · exact same.symm ▸ role
    · simpa [same] using successful
    · show 1 ≤ config.maxAttempts
      omega
    · show config.maxAttempts ≤ 7
      omega
  · exact absurd checks (by simp [raise])

theorem Initial.idle {fallback : SlotLabel} {machine : Machine}
    (initial : Initial fallback machine) : machine.phase = .idle := by
  rw [initial.fresh]

theorem Initial.standing {fallback : SlotLabel} {machine : Machine}
    (initial : Initial fallback machine) : Standing fallback machine where
  unopened := by
    rw [initial.fresh]
    simp
  opened := fun opened => absurd initial.idle opened
  roles := fun _ => initial.roles
  swapped := fun promoted => by simp [initial.idle] at promoted

theorem Edge.standing {fallback : SlotLabel} {machine after : Machine} {event : Event}
    {fellBackTo : Option SlotLabel} (edge : Edge fallback machine event fellBackTo after)
    (standing : Standing fallback machine) : Standing fallback after := by
  have roles := standing.roles
  have opened := standing.opened
  cases edge with
  | begin _ _ _ phase =>
    obtain ⟨active, candidate⟩ := roles (by simp [phase])
    constructor <;> simp_all
    constructor <;> simp_all
  | verified _ phase | unwritten _ phase | arm phase | boot phase | promote _ phase
  | mismatched _ phase | retry _ _ _ _ _ phase | exhaust _ _ _ _ phase | abortTrial _ phase =>
    obtain ⟨active, candidate⟩ := roles (by simp [phase])
    obtain ⟨fromSlot, toSlot⟩ := opened (by simp [phase])
    constructor <;> simp_all
    constructor <;> simp_all
  | abort _ phase =>
    obtain ⟨started, _, pending⟩ := abortable phase
    obtain ⟨active, candidate⟩ := roles (pending_not_promoted pending)
    obtain ⟨fromSlot, toSlot⟩ := opened started
    constructor <;> simp_all
    constructor <;> simp_all

inductive Answered (fallback : SlotLabel) (machine : Machine) (event : Event) : Prop
  | declined (result : TransitionResult) (refused : result.allowed = false)
      (step : device.step machine event = (.ok result, machine))
  | unknown (message : String) (unknown : ¬ event.Known)
      (step : device.step machine event = (.error ⟨.valueError, message⟩, machine))
  | taken (known : event.Known) (fellBackTo : Option SlotLabel) (after : Machine)
      (edge : Edge fallback machine event fellBackTo after)
      (takes : Takes machine event fellBackTo after)

theorem step_answered {fallback : SlotLabel} {machine : Machine}
    (standing : Standing fallback machine) (event : Event) : Answered fallback machine event := by
  rcases call_cases machine fallback standing event with
    ⟨reason, declined⟩ | ⟨unknown, message, raised⟩ | ⟨known, fellBackTo, after, edge, takes⟩
  · exact .declined (machine.refuse event.name reason) rfl (by simp [device, object, declined])
  · exact .unknown message unknown (by simp [device, object, raised])
  · exact .taken known fellBackTo after edge takes

theorem Takes.left {machine after : Machine} {event : Event} {fellBackTo : Option SlotLabel}
    (takes : Takes machine event fellBackTo after) : (device.step machine event).2 = after := by
  obtain ⟨reason, ran⟩ := takes
  simp only [device, object, ran, checked]
  cases after.assertInvariants <;> rfl

theorem Takes.passes {machine after : Machine} {event : Event} {fellBackTo : Option SlotLabel}
    (takes : Takes machine event fellBackTo after) (sound : after.assertInvariants = .ok ()) :
    ∃ reason, device.step machine event =
      (.ok (accepted machine after event fellBackTo reason), after) := by
  obtain ⟨reason, ran⟩ := takes
  exact ⟨reason, by simp [device, object, ran, checked, sound]⟩

theorem Takes.raises {machine after : Machine} {event : Event} {fellBackTo : Option SlotLabel}
    (takes : Takes machine event fellBackTo after) (raised : Raised)
    (unsound : after.assertInvariants = .error raised) :
    device.step machine event = (.error raised, after) := by
  obtain ⟨reason, ran⟩ := takes
  simp [device, object, ran, checked, unsound]

theorem Takes.allowed {machine after : Machine} {event : Event} {fellBackTo : Option SlotLabel}
    (takes : Takes machine event fellBackTo after) {result : TransitionResult}
    (answered : (device.step machine event).1 = .ok result) : result.allowed = true := by
  obtain ⟨reason, ran⟩ := takes
  simp only [device, object, ran, checked] at answered
  cases verdict : after.assertInvariants with
  | ok _ =>
    simp only [verdict, answer, Except.ok.injEq] at answered
    rw [← answered]
    rfl
  | error raised => simp [verdict, answer] at answered

theorem run_edges_among {fallback : SlotLabel} (Allowed : Event → Prop) (Holds : Machine → Prop)
    (preserved : ∀ {before after event fellBackTo}, Allowed event → Standing fallback before →
      Holds before → Edge fallback before event fellBackTo after → Holds after)
    {machine : Machine} (standing : Standing fallback machine) (holds : Holds machine)
    (events : List Event) (allowed : ∀ event ∈ events, Allowed event) :
    Standing fallback (device.run machine events) ∧ Holds (device.run machine events) := by
  refine device.run_invariant_among Allowed
    (fun machine => Standing fallback machine ∧ Holds machine) ?_ machine ⟨standing, holds⟩ events
    allowed
  rintro before event permitted ⟨standing, holds⟩
  cases step_answered standing event with
  | declined _ _ step => simpa [step] using ⟨standing, holds⟩
  | unknown _ _ step => simpa [step] using ⟨standing, holds⟩
  | taken _ _ _ edge takes =>
    rw [takes.left]
    exact ⟨edge.standing standing, preserved permitted standing holds edge⟩

theorem run_edges {fallback : SlotLabel} (Holds : Machine → Prop)
    (preserved : ∀ {before after event fellBackTo}, Standing fallback before → Holds before →
      Edge fallback before event fellBackTo after → Holds after)
    {machine : Machine} (standing : Standing fallback machine) (holds : Holds machine)
    (events : List Event) :
    Standing fallback (device.run machine events) ∧ Holds (device.run machine events) :=
  run_edges_among (fun _ => True) Holds (fun _ => preserved) standing holds events
    fun _ _ => trivial

theorem run_standing {fallback : SlotLabel} {machine : Machine}
    (standing : Standing fallback machine) (events : List Event) :
    Standing fallback (device.run machine events) :=
  (run_edges (fun _ => True) (fun _ _ _ => trivial) standing trivial events).1

theorem Edge.config {fallback : SlotLabel} {machine after : Machine} {event : Event}
    {fellBackTo : Option SlotLabel} (edge : Edge fallback machine event fellBackTo after) :
    after.config = machine.config := by
  cases edge <;> rfl

theorem run_config {fallback : SlotLabel} {machine : Machine}
    (standing : Standing fallback machine) (events : List Event) :
    (device.run machine events).config = machine.config :=
  (run_edges (fun later => later.config = machine.config)
    (fun _ same edge => edge.config.trans same) standing rfl events).2

structure Kept (before after : SlotState) : Prop where
  payloadDigest : after.payloadDigest = before.payloadDigest
  payloadRef : after.payloadRef = before.payloadRef
  version : after.version = before.version
  state : after.state = before.state
  triesRemaining : after.triesRemaining = before.triesRemaining
  successful : after.successful = before.successful
  lastProbeVerdict : after.lastProbeVerdict = before.lastProbeVerdict

theorem Kept.refl (slot : SlotState) : Kept slot slot := by constructor <;> rfl

theorem Edge.kept {fallback : SlotLabel} {machine after : Machine} {event : Event}
    {fellBackTo : Option SlotLabel} (edge : Edge fallback machine event fellBackTo after) :
    Kept (machine.slots.get fallback) (after.slots.get fallback) := by
  cases edge <;> constructor <;> simp

theorem Kept.trans {first second third : SlotState} (front : Kept first second)
    (back : Kept second third) : Kept first third where
  payloadDigest := back.payloadDigest.trans front.payloadDigest
  payloadRef := back.payloadRef.trans front.payloadRef
  version := back.version.trans front.version
  state := back.state.trans front.state
  triesRemaining := back.triesRemaining.trans front.triesRemaining
  successful := back.successful.trans front.successful
  lastProbeVerdict := back.lastProbeVerdict.trans front.lastProbeVerdict

theorem run_kept {fallback : SlotLabel} {machine : Machine}
    (standing : Standing fallback machine) (events : List Event) :
    Kept (machine.slots.get fallback) ((device.run machine events).slots.get fallback) :=
  (run_edges (fun later => Kept (machine.slots.get fallback) (later.slots.get fallback))
    (fun _ kept edge => kept.trans edge.kept) standing (Kept.refl _) events).2

theorem terminal_opened {phase : Phase} (terminal : phase ∈ terminalPhases) : phase ≠ .idle := by
  rintro rfl
  exact absurd terminal (by decide)

theorem Edge.leaves_idle {fallback : SlotLabel} {machine after : Machine} {event : Event}
    {fellBackTo : Option SlotLabel} (edge : Edge fallback machine event fellBackTo after) :
    after.phase ≠ .idle := by
  cases edge <;> simp

theorem Edge.unarmed {fallback : SlotLabel} {machine after : Machine} {event : Event}
    {fellBackTo : Option SlotLabel} (edge : Edge fallback machine event fellBackTo after)
    (unarmed : machine.phase = .idle ∨ machine.phase = .writing ∨ machine.phase = .candidateReady →
      machine.attempts = [])
    (early : after.phase = .idle ∨ after.phase = .writing ∨ after.phase = .candidateReady) :
    after.attempts = [] := by
  cases edge with
  | begin _ _ _ phase | verified _ phase => simp [unarmed, phase]
  | _ => simp at early

theorem run_stays_open {fallback : SlotLabel} {machine : Machine}
    (standing : Standing fallback machine) (opened : machine.phase ≠ .idle)
    (events : List Event) : (device.run machine events).phase ≠ .idle :=
  (run_edges (fun machine => machine.phase ≠ .idle) (fun _ _ edge => edge.leaves_idle) standing
    opened events).2

theorem run_opened_by_begin {fallback : SlotLabel} {machine : Machine}
    (standing : Standing fallback machine) (idle : machine.phase = .idle) (events : List Event)
    (opened : (device.run machine events).phase ≠ .idle) :
    ∃ front payloadDigest payloadRef version back,
      events = front ++ .begin payloadDigest payloadRef version :: back ∧
      (device.run machine front).phase = .idle ∧
      (device.step (device.run machine front) (.begin payloadDigest payloadRef version)).2 =
        (device.run machine front).opened fallback payloadDigest payloadRef version := by
  obtain ⟨front, event, back, rfl, before, after⟩ :=
    device.run_enters (fun machine => machine.phase ≠ .idle) machine (by simp [idle]) events opened
  have before : (device.run machine front).phase = .idle := by simpa using before
  cases step_answered (run_standing standing front) event with
  | declined _ _ step => simp [step, before] at after
  | unknown _ _ step => simp [step, before] at after
  | taken _ _ _ edge takes =>
    cases edge with
    | begin payloadDigest payloadRef version =>
      exact ⟨front, payloadDigest, payloadRef, version, back, rfl, before, takes.left⟩
    | abort _ phase => simp [before] at phase
    | _ => simp_all

structure GoodSlotKept (fromSlot toSlot : SlotLabel) (opening later : Machine) : Prop where
  sameFrom : later.fromSlot = some fromSlot
  sameTo : later.toSlot = some toSlot
  apart : fromSlot ≠ toSlot
  wasActive : (opening.slots.get fromSlot).role = .active
  kept : Kept (opening.slots.get fromSlot) (later.slots.get fromSlot)
  stillActive : later.phase ≠ .promoted → (later.slots.get fromSlot).role = .active

/--
Once the from and to slots are set, one `begin` has set them, and every state
after it keeps the slot it found active.
-/
theorem good_slot_never_overwritten (config : Configuration) (items : List (String × SlotState))
    (machine : Machine) (built : Machine.postInit config items = .ok machine)
    (events : List Event)
    (set : (device.run machine events).fromSlot ≠ none ∨
      (device.run machine events).toSlot ≠ none) :
    ∃ front payloadDigest payloadRef version back fromSlot toSlot,
      events = front ++ .begin payloadDigest payloadRef version :: back ∧
      (device.run machine front).fromSlot = none ∧ (device.run machine front).toSlot = none ∧
      ∀ more, GoodSlotKept fromSlot toSlot (device.run machine front)
        (device.run machine (front ++ .begin payloadDigest payloadRef version :: more)) := by
  obtain ⟨fallback, initial⟩ := postInit_initial config items machine built
  have standing := initial.standing
  have opened : (device.run machine events).phase ≠ .idle := by
    intro idle
    obtain ⟨fromSlot, toSlot⟩ := (run_standing standing events).unopened idle
    simp [fromSlot, toSlot] at set
  obtain ⟨front, payloadDigest, payloadRef, version, back, split, idle, begun⟩ :=
    run_opened_by_begin standing initial.idle events opened
  have before := run_standing standing front
  obtain ⟨noFrom, noTo⟩ := before.unopened idle
  refine ⟨front, payloadDigest, payloadRef, version, back, fallback, fallback.other, split, noFrom,
    noTo, ?_⟩
  intro more
  have edge := @Edge.begin fallback _ payloadDigest payloadRef version idle
  have after := edge.standing before
  rw [device.run_append, System.run_cons, begun]
  have later := run_standing after more
  obtain ⟨fromSlot, toSlot⟩ := later.opened (run_stays_open after edge.leaves_idle more)
  exact {
    sameFrom := fromSlot
    sameTo := toSlot
    apart := by simp
    wasActive := (before.roles (by simp [idle])).active
    kept := edge.kept.trans (run_kept after more)
    stillActive := fun pending => (later.roles pending).active }

theorem refused_event_changes_nothing (config : Configuration) (items : List (String × SlotState))
    (machine : Machine) (built : Machine.postInit config items = .ok machine)
    (events : List Event) (event : Event) (result : TransitionResult)
    (answered : (device.step (device.run machine events) event).1 = .ok result)
    (refused : result.allowed = false) :
    (device.step (device.run machine events) event).2 = device.run machine events := by
  -- The reading counter is a field of the machine, so the clock is part of the equation.
  obtain ⟨fallback, initial⟩ := postInit_initial config items machine built
  cases step_answered (run_standing initial.standing events) event with
  | declined _ _ step => rw [step]
  | unknown _ _ step => rw [step]
  | taken _ _ _ _ takes => simp [takes.allowed answered] at refused

def fixtureConfiguration : Configuration where
  targetRef := "urn:srcos:node:test_node"
  transactionId := "urn:srcos:update-transaction:test_0001"
  healthProbeRef := "urn:srcos:update-health-probe:sourceos_node_v1"
  healthProbeDigest := "sha256:dddddddddddddddddddddddddddddddddddddddddddddddddddddddddddddddd"
  clock := fun _ => "2026-07-29T10:00:00Z"

def goodDigest : String := "sha256:aaaaaaaaaaaaaaaaaaaaaaaaaaaaaaaaaaaaaaaaaaaaaaaaaaaaaaaaaaaaaaaa"

def badDigest : String := "sha256:bbbbbbbbbbbbbbbbbbbbbbbbbbbbbbbbbbbbbbbbbbbbbbbbbbbbbbbbbbbbbbbb"

def provenSlot : SlotState where
  slot := .A
  role := .active
  state := .good
  bootPriority := 15
  triesRemaining := 0
  successful := true
  currentlyRunning := true
  payloadDigest := some goodDigest
  version := some "1.0.0"

def emptySlot : SlotState where
  slot := .B
  role := .candidate
  state := .empty
  bootPriority := 1
  triesRemaining := 0
  successful := false
  currentlyRunning := false

def fixtureMachine : Machine where
  config := fixtureConfiguration
  slots := SlotTable.ofPair provenSlot emptySlot rfl

theorem fixtureMachine_built :
    Machine.postInit fixtureConfiguration [("A", provenSlot), ("B", emptySlot)] =
      .ok fixtureMachine := rfl

theorem good_slot_never_overwritten_fixture :
    ∃ front payloadDigest payloadRef version back fromSlot toSlot,
      [.arm, .begin badDigest none none, .arm] =
        front ++ Event.begin payloadDigest payloadRef version :: back ∧
      (device.run fixtureMachine front).fromSlot = none ∧
      (device.run fixtureMachine front).toSlot = none ∧
      ∀ more, GoodSlotKept fromSlot toSlot (device.run fixtureMachine front)
        (device.run fixtureMachine (front ++ .begin payloadDigest payloadRef version :: more)) :=
  good_slot_never_overwritten fixtureConfiguration _ fixtureMachine fixtureMachine_built
    [.arm, .begin badDigest none none, .arm] (.inl (by decide))

theorem refused_event_changes_nothing_fixture :
    (device.step (device.run fixtureMachine [.begin badDigest none none])
      (.watchdogExpired "hung" "reboot-to-fallback")).2 =
      device.run fixtureMachine [.begin badDigest none none] :=
  refused_event_changes_nothing fixtureConfiguration _ fixtureMachine fixtureMachine_built
    [.begin badDigest none none] (.watchdogExpired "hung" "reboot-to-fallback") _ rfl (by decide)

end SourceosBoot.AbUpdate
