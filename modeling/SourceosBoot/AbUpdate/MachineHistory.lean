import SourceosBoot.AbUpdate.ContractPairs

set_option autoImplicit false

-- What is accepted follows one shape: a write, arming, attempts that fail, and at most one event
-- that settles.

namespace SourceosBoot.AbUpdate

open Python Transition

def acceptedEvents (log : List (Event × Except Raised TransitionResult)) : List Event :=
  log.filterMap fun entry => match entry.2 with
    | .ok result => if result.allowed then some entry.1 else none
    | .error _ => none

def acceptedRun (machine : Machine) (events : List Event) : List Event :=
  acceptedEvents (device.trace machine events)

def Event.isBoot : Event → Bool
  | .bootAttempt => true
  | _ => false

def Event.reportsFailure : Event → Bool
  | .probeFail _ | .watchdogExpired _ _ => true
  | _ => false

def attempts (failures : List Event) : List Event :=
  failures.flatMap fun failure => [.bootAttempt, failure]

@[simp] theorem attempts_nil : attempts [] = [] := rfl

@[simp] theorem attempts_cons (failure : Event) (rest : List Event) :
    attempts (failure :: rest) = .bootAttempt :: failure :: attempts rest := rfl

theorem attempts_append (front back : List Event) :
    attempts (front ++ back) = attempts front ++ attempts back :=
  List.flatMap_append

/-- The accepted events of a pending transaction and how many of them are boots. -/
inductive Shape (digest : String) : Phase → Nat → List Event → Prop
  | writing (payloadRef version : Option String) :
      Shape digest .writing 0 [.begin digest payloadRef version]
  | candidateReady (payloadRef version : Option String) :
      Shape digest .candidateReady 0 [.begin digest payloadRef version, .writeComplete digest]
  | armed (payloadRef version : Option String) (failures : List Event)
      (failed : ∀ failure ∈ failures, failure.reportsFailure = true) :
      Shape digest .armed failures.length
        ([.begin digest payloadRef version, .writeComplete digest, .arm] ++ attempts failures)
  | trying (payloadRef version : Option String) (failures : List Event)
      (failed : ∀ failure ∈ failures, failure.reportsFailure = true) :
      Shape digest .trying (failures.length + 1)
        ([.begin digest payloadRef version, .writeComplete digest, .arm] ++ attempts failures ++
          [.bootAttempt])

section ShapeSteps

variable {digest : String} {boots : Nat} {accepted : List Event}

theorem Shape.verify (shape : Shape digest .writing boots accepted) :
    Shape digest .candidateReady boots (accepted ++ [.writeComplete digest]) := by
  cases shape with
  | writing payloadRef version => exact .candidateReady payloadRef version

theorem Shape.arm (shape : Shape digest .candidateReady boots accepted) :
    Shape digest .armed boots (accepted ++ [.arm]) := by
  cases shape with
  | candidateReady payloadRef version => exact .armed payloadRef version [] (by simp)

theorem Shape.boot (shape : Shape digest .armed boots accepted) :
    Shape digest .trying (boots + 1) (accepted ++ [.bootAttempt]) := by
  cases shape with
  | armed payloadRef version failures failed => exact .trying payloadRef version failures failed

theorem Shape.retry {event : Event} (reports : event.reportsFailure = true)
    (shape : Shape digest .trying boots accepted) :
    Shape digest .armed boots (accepted ++ [event]) := by
  cases shape with
  | trying payloadRef version failures failed =>
    have reported : ∀ failure ∈ failures ++ [event], failure.reportsFailure = true := by
      intro failure listed
      rcases List.mem_append.mp listed with earlier | last
      · exact failed failure earlier
      · rwa [List.mem_singleton.mp last]
    simpa [attempts_append] using Shape.armed payloadRef version (failures ++ [event]) reported

end ShapeSteps

theorem attempts_length (failures : List Event) :
    (attempts failures).length = 2 * failures.length := by
  induction failures with
  | nil => rfl
  | cons failure rest ih => simp [ih, Nat.mul_add]

theorem attempts_boots (failures : List Event)
    (failed : ∀ failure ∈ failures, failure.reportsFailure = true) :
    (attempts failures).countP Event.isBoot = failures.length := by
  induction failures with
  | nil => rfl
  | cons failure rest ih =>
    have later := ih fun failure listed => failed failure (List.mem_cons_of_mem _ listed)
    have first : failure.isBoot = false := by
      have reports := failed failure (by simp)
      cases failure <;> simp [Event.reportsFailure, Event.isBoot] at reports ⊢
    simp only [attempts_cons, List.countP_cons, later, first]
    simp [Event.isBoot]

theorem Shape.boots {digest : String} {phase : Phase} {boots : Nat} {accepted : List Event}
    (shape : Shape digest phase boots accepted) : accepted.countP Event.isBoot = boots := by
  cases shape with
  | writing | candidateReady => rfl
  | armed _ _ failures failed => simp [attempts_boots failures failed, Event.isBoot]
  | trying _ _ failures failed => simp [attempts_boots failures failed, Event.isBoot]

theorem Shape.length {digest : String} {phase : Phase} {boots : Nat} {accepted : List Event}
    (shape : Shape digest phase boots accepted) :
    accepted.length ≤ 2 * boots + 2 ∨ (phase = .armed ∧ accepted.length = 2 * boots + 3) := by
  cases shape with
  | writing | candidateReady => simp
  | armed _ _ failures =>
    refine .inr ⟨rfl, ?_⟩
    simp [attempts_length]
  | trying _ _ failures =>
    refine .inl ?_
    simp [attempts_length]
    omega

structure History (fallback : SlotLabel) (machine : Machine) (accepted : List Event) : Prop where
  unopened : machine.phase = .idle → accepted = []
  early : machine.phase = .writing ∨ machine.phase = .candidateReady →
    Shape machine.candidateDigest machine.phase 0 accepted
  trial : machine.phase = .armed ∨ machine.phase = .trying →
    ∃ boots : Nat, Shape machine.candidateDigest machine.phase boots accepted ∧
      (machine.slots.get fallback.other).triesRemaining + boots = machine.config.maxAttempts
  settled : machine.phase ∈ terminalPhases →
    ∃ source boots before event, accepted = before ++ [event] ∧
      Shape machine.candidateDigest source boots before ∧
      (boots : Int) ≤ machine.config.maxAttempts ∧
      (source = .armed → (boots : Int) < machine.config.maxAttempts) ∧
      event.isBoot = false ∧
      (machine.phase = .promoted → source = .trying ∧ ∃ detail, event = .probePass detail)

section History

variable {fallback : SlotLabel} {machine : Machine} {accepted : List Event}

theorem History.of_early
    (phase : machine.phase = .writing ∨ machine.phase = .candidateReady)
    (shape : Shape machine.candidateDigest machine.phase 0 accepted) :
    History fallback machine accepted := by
  rcases phase with phase | phase <;> constructor <;> simp_all [terminalPhases]

theorem History.of_trial (boots : Nat) (phase : machine.phase = .armed ∨ machine.phase = .trying)
    (shape : Shape machine.candidateDigest machine.phase boots accepted)
    (budget : (machine.slots.get fallback.other).triesRemaining + boots =
      machine.config.maxAttempts) :
    History fallback machine accepted := by
  rcases phase with phase | phase <;> constructor <;> simp_all [terminalPhases] <;>
    exact ⟨boots, shape, budget⟩

theorem History.pending (history : History fallback machine accepted)
    (stage : Stage fallback machine) (opened : machine.phase ≠ .idle)
    (pending : machine.phase ∉ terminalPhases) :
    ∃ boots : Nat, Shape machine.candidateDigest machine.phase boots accepted ∧
      (boots : Int) ≤ machine.config.maxAttempts ∧
      (machine.phase = .armed → (boots : Int) < machine.config.maxAttempts) := by
  have budget := stage.budget
  by_cases early : machine.phase = .writing ∨ machine.phase = .candidateReady
  · refine ⟨0, history.early early, by omega, fun armed => by simp [armed] at early⟩
  have trial : machine.phase = .armed ∨ machine.phase = .trying := by
    cases phase : machine.phase <;> simp_all [terminalPhases]
  obtain ⟨boots, shape, spent⟩ := history.trial trial
  rcases trial with phase | phase
  · have remaining := stage.armed phase
    exact ⟨boots, shape, by omega, fun _ => by omega⟩
  · have remaining := stage.trying phase
    exact ⟨boots, shape, by omega, fun armed => by simp [phase] at armed⟩

theorem History.settles {after : Machine} (history : History fallback machine accepted)
    (stage : Stage fallback machine) (opened : machine.phase ≠ .idle)
    (pending : machine.phase ∉ terminalPhases) (event : Event) (noBoot : event.isBoot = false)
    (terminal : after.phase ∈ terminalPhases)
    (sameDigest : after.candidateDigest = machine.candidateDigest)
    (sameConfig : after.config = machine.config)
    (promotes : after.phase = .promoted →
      machine.phase = .trying ∧ ∃ detail, event = .probePass detail) :
    History fallback after (accepted ++ [event]) where
  unopened := fun idle => by simp [idle, terminalPhases] at terminal
  early := fun early => by rcases early with phase | phase <;> simp [phase, terminalPhases] at terminal
  trial := fun trial => by rcases trial with phase | phase <;> simp [phase, terminalPhases] at terminal
  settled := fun _ => by
    obtain ⟨boots, shape, most, more⟩ := history.pending stage opened pending
    rw [sameDigest, sameConfig]
    exact ⟨machine.phase, boots, accepted, event, rfl, shape, most, more, noBoot, promotes⟩

end History

theorem Failure.reports {event : Event} {result : AttemptResult} {detail : String}
    (failure : Failure event result detail) :
    event.reportsFailure = true ∧ event.isBoot = false := by
  cases failure <;> exact ⟨rfl, rfl⟩

theorem Edge.history {fallback : SlotLabel} {machine after : Machine} {event : Event}
    {fellBackTo : Option SlotLabel} {accepted : List Event}
    (edge : Edge fallback machine event fellBackTo after) (stage : Stage fallback machine)
    (history : History fallback machine accepted) :
    History fallback after (accepted ++ [event]) := by
  cases edge with
  | begin payloadDigest payloadRef version phase =>
    rw [history.unopened phase]
    exact .of_early (.inl rfl) (.writing payloadRef version)
  | verified observedDigest phase same =>
    have shape := history.early (.inl phase)
    rw [phase] at shape
    subst same
    exact .of_early (.inr rfl) (by simpa using shape.verify)
  | arm phase =>
    have shape := history.early (.inr phase)
    rw [phase] at shape
    exact .of_trial 0 (.inl rfl) (by simpa using shape.arm) (by simp)
  | boot phase remaining =>
    obtain ⟨boots, shape, budget⟩ := history.trial (.inl phase)
    rw [phase] at shape
    exact .of_trial (boots + 1) (.inr rfl) (by simpa using shape.boot) (by simp; omega)
  | retry _ result detail failure _ phase =>
    obtain ⟨boots, shape, budget⟩ := history.trial (.inr phase)
    rw [phase] at shape
    have retried := shape.retry failure.reports.1
    exact .of_trial boots (.inl rfl) (by simpa using retried) (by simpa using budget)
  | promote detail phase =>
    exact history.settles stage (by simp [phase]) (by simp [phase, terminalPhases]) _ rfl
      (by simp [terminalPhases]) (by simp) (by simp) fun _ => ⟨phase, detail, rfl⟩
  | mismatched _ phase | unwritten _ phase | abortTrial _ phase =>
    exact history.settles stage (by simp [phase]) (by simp [phase, terminalPhases]) _ rfl
      (by simp [terminalPhases]) (by simp) (by simp) (by simp)
  | exhaust _ _ _ failure phase =>
    exact history.settles stage (by simp [phase]) (by simp [phase, terminalPhases]) _
      failure.reports.2 (by simp [terminalPhases]) (by simp) (by simp) (by simp)
  | abort _ phase =>
    obtain ⟨opened, _, pending⟩ := abortable phase
    exact history.settles stage opened pending _ rfl
      (by simp [terminalPhases]) (by simp) (by simp) (by simp)

theorem run_history {fallback : SlotLabel} {machine : Machine}
    (contracted : Contracted fallback machine) (events : List Event) :
    Sound fallback (device.run machine events) ∧
      History fallback (device.run machine events) (acceptedRun machine events) := by
  refine device.run_history
    (fun past later => Sound fallback later ∧ History fallback later (acceptedEvents past)) ?_
    machine ⟨contracted.sound, ?_⟩ events
  · rintro past before event ⟨sound, history⟩
    rcases sound.answers event with
      ⟨result, step, refused⟩ | ⟨message, _, step⟩ | ⟨fellBackTo, after, reason, _, edge, step⟩
    · simpa [step, acceptedEvents, refused] using ⟨sound, history⟩
    · simpa [step, acceptedEvents] using ⟨sound, history⟩
    · rw [step]
      refine ⟨edge.sound sound, ?_⟩
      simpa [acceptedEvents, accepted] using edge.history sound.stage history
  · have idle := contracted.initial.idle
    constructor <;> simp [acceptedEvents, idle, terminalPhases]

structure PromotedBy (maxAttempts : Int) (accepted : List Event) (digest : String)
    (failures : List Event) : Prop where
  events : ∃ payloadRef version detail, accepted =
    [.begin digest payloadRef version, .writeComplete digest, .arm] ++ attempts failures ++
      [.bootAttempt, .probePass detail]
  failed : ∀ failure ∈ failures, failure.reportsFailure = true
  budget : ((failures.length + 1 : Nat) : Int) ≤ maxAttempts

theorem History.promoted_by {fallback : SlotLabel} {machine : Machine} {accepted : List Event}
    (history : History fallback machine accepted) (promoted : machine.phase = .promoted) :
    ∃ failures, PromotedBy machine.config.maxAttempts accepted machine.candidateDigest failures := by
  obtain ⟨source, boots, before, event, split, shape, budget, _, _, promotes⟩ :=
    history.settled (by simp [promoted, terminalPhases])
  obtain ⟨rfl, detail, rfl⟩ := promotes promoted
  cases shape with
  | trying payloadRef version failures failed =>
    exact ⟨failures, ⟨payloadRef, version, detail, by simpa using split⟩, failed, budget⟩

theorem promoted_only_after_probe (left right : Json) (arguments : MachineArguments)
    (machine : Machine) (built : BuiltFrom left right arguments machine) (events : List Event) :
    ((device.run machine events).phase = .promoted →
      ∃ digest failures toSlot,
        PromotedBy arguments.maxAttempts (acceptedRun machine events) digest failures ∧
        (device.run machine events).toSlot = some toSlot ∧
        ((device.run machine events).slots.get toSlot).payloadDigest = some digest) ∧
    ∀ toSlot, (device.run machine events).toSlot = some toSlot →
      ((device.run machine events).slots.get toSlot).successful = true ∨
        ((device.run machine events).slots.get toSlot).role = .active →
      (device.run machine events).phase = .promoted := by
  obtain ⟨fallback, contracted⟩ := built.contracted
  obtain ⟨sound, history⟩ := run_history contracted events
  have config := run_config contracted.sound.standing events
  rw [← built.arguments, ← config]
  generalize device.run machine events = later at sound history ⊢
  constructor
  · intro promoted
    have opened : later.phase ≠ .idle := by simp [promoted]
    obtain ⟨failures, by_probe⟩ := history.promoted_by promoted
    exact ⟨later.candidateDigest, failures, fallback.other, by_probe,
      (sound.standing.opened opened).2, sound.stage.digest opened⟩
  · intro toSlot named marked
    have opened : later.phase ≠ .idle := by
      intro idle
      simp [(sound.standing.unopened idle).2] at named
    obtain rfl : fallback.other = toSlot := by simpa [(sound.standing.opened opened).2] using named
    rcases marked with successful | active
    · exact (sound.stage.successful opened).mp successful
    · by_contra pending
      simp [(sound.standing.roles pending).candidate] at active

def promotingEvents : List Event :=
  [.begin badDigest none none, .probePass none, .writeComplete badDigest, .arm, .bootAttempt,
    .probeFail "no network", .bootAttempt, .probePass none]

theorem promoted_only_after_probe_example :
    ∃ digest failures toSlot,
      PromotedBy 2 (acceptedRun exampleMachine promotingEvents) digest failures ∧
      (device.run exampleMachine promotingEvents).toSlot = some toSlot ∧
      ((device.run exampleMachine promotingEvents).slots.get toSlot).payloadDigest = some digest :=
  (promoted_only_after_probe exampleActive exampleCandidate exampleArguments exampleMachine
    exampleMachine_built promotingEvents).1 (by decide +kernel)

theorem History.bounded {fallback : SlotLabel} {machine : Machine} {accepted : List Event}
    (history : History fallback machine accepted) (stage : Stage fallback machine) :
    (accepted.countP Event.isBoot : Int) ≤ machine.config.maxAttempts ∧
      (accepted.length : Int) ≤ 2 * machine.config.maxAttempts + 3 := by
  have budget := stage.budget
  by_cases opened : machine.phase = .idle
  · rw [history.unopened opened]
    exact ⟨by simp; omega, by simp; omega⟩
  by_cases terminal : machine.phase ∈ terminalPhases
  · obtain ⟨source, boots, before, event, rfl, shape, most, more, noBoot, _⟩ :=
      history.settled terminal
    have count := shape.boots
    -- A settling event that follows `arm` directly leaves one attempt unused.
    rcases shape.length with short | ⟨armed, long⟩
    · simp [noBoot]
      omega
    · have more := more armed
      simp [noBoot]
      omega
  · obtain ⟨boots, shape, most, more⟩ := history.pending stage opened terminal
    have count := shape.boots
    rcases shape.length with short | ⟨armed, long⟩
    · omega
    · have more := more armed
      omega

theorem Edge.from_pending {fallback : SlotLabel} {machine after : Machine} {event : Event}
    {fellBackTo : Option SlotLabel} (edge : Edge fallback machine event fellBackTo after) :
    machine.phase ∉ terminalPhases := by
  cases edge with
  | abort _ phase => exact (abortable phase).2.2
  | _ => simp_all [terminalPhases]

theorem Sound.accepts_nothing {fallback : SlotLabel} {machine : Machine}
    (sound : Sound fallback machine) (terminal : machine.phase ∈ terminalPhases)
    (more : List Event) : acceptedRun machine more = [] := by
  induction more with
  | nil => rfl
  | cons event rest ih =>
    rcases sound.answers event with
      ⟨result, step, refused⟩ | ⟨message, _, step⟩ | ⟨_, _, _, _, edge, _⟩
    · simpa [acceptedRun, System.trace, acceptedEvents, step, refused] using ih
    · simpa [acceptedRun, System.trace, acceptedEvents, step] using ih
    · exact absurd terminal edge.from_pending

theorem no_boot_loop (left right : Json) (arguments : MachineArguments)
    (machine : Machine) (built : BuiltFrom left right arguments machine) (events : List Event) :
    ((acceptedRun machine events).countP Event.isBoot : Int) ≤ arguments.maxAttempts ∧
    ((acceptedRun machine events).length : Int) ≤ 2 * arguments.maxAttempts + 3 ∧
    ((device.run machine events).phase = .armed ∨ (device.run machine events).phase = .trying →
      ∃ toSlot, (device.run machine events).toSlot = some toSlot ∧
        ((device.run machine events).slots.get toSlot).triesRemaining +
          (acceptedRun machine events).countP Event.isBoot = arguments.maxAttempts) ∧
    ((device.run machine events).phase = .armed →
      ∃ result, (device.step (device.run machine events) .bootAttempt).1 = .ok result ∧
        result.allowed = true) ∧
    ((device.run machine events).phase ∈ terminalPhases →
      ∀ more, acceptedRun (device.run machine events) more = []) := by
  obtain ⟨fallback, contracted⟩ := built.contracted
  obtain ⟨sound, history⟩ := run_history contracted events
  have config := run_config contracted.sound.standing events
  rw [← built.arguments, ← config]
  generalize device.run machine events = later at sound history ⊢
  obtain ⟨boots, length⟩ := history.bounded sound.stage
  refine ⟨boots, length, fun trial => ?_, fun armed => ?_, sound.accepts_nothing⟩
  · obtain ⟨count, shape, budget⟩ := history.trial trial
    have opened : later.phase ≠ .idle := by rcases trial with phase | phase <;> simp [phase]
    exact ⟨fallback.other, (sound.standing.opened opened).2, by rw [shape.boots, budget]⟩
  · have edge := Edge.boot armed (sound.stage.armed armed)
    have passes := (assertInvariants_ok _).mpr ((edge.sound sound).checked edge.leaves_idle)
    obtain ⟨reason, step⟩ := (edge_takes sound.standing edge).passes passes
    exact ⟨_, by rw [step], rfl⟩

def loopingEvents : List Event :=
  -- Both attempts of the budget fail, and the caller goes on trying.
  [.begin badDigest none none, .writeComplete badDigest, .arm, .bootAttempt, .probeFail "down",
    .bootAttempt, .watchdogExpired "hung" "reboot", .bootAttempt, .bootAttempt]

theorem no_boot_loop_example :
    ((acceptedRun exampleMachine loopingEvents).countP Event.isBoot : Int) ≤ 2 ∧
    ((acceptedRun exampleMachine loopingEvents).length : Int) ≤ 2 * 2 + 3 ∧
    ((device.run exampleMachine loopingEvents).phase = .armed ∨
        (device.run exampleMachine loopingEvents).phase = .trying →
      ∃ toSlot, (device.run exampleMachine loopingEvents).toSlot = some toSlot ∧
        ((device.run exampleMachine loopingEvents).slots.get toSlot).triesRemaining +
          (acceptedRun exampleMachine loopingEvents).countP Event.isBoot = 2) ∧
    ((device.run exampleMachine loopingEvents).phase = .armed →
      ∃ result, (device.step (device.run exampleMachine loopingEvents) .bootAttempt).1 = .ok result ∧
        result.allowed = true) ∧
    ((device.run exampleMachine loopingEvents).phase ∈ terminalPhases →
      ∀ more, acceptedRun (device.run exampleMachine loopingEvents) more = []) :=
  no_boot_loop exampleActive exampleCandidate exampleArguments exampleMachine
    exampleMachine_built loopingEvents

end SourceosBoot.AbUpdate
