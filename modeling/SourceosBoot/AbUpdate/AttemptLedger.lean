import SourceosBoot.AbUpdate.MachineHistory

set_option autoImplicit false

-- An accepted event that finds a trial boot under way ends it, and the ledger grows by one entry.
-- No other event touches it.

namespace SourceosBoot.AbUpdate

open Python Transition

def Event.attemptResult : Event → Option AttemptResult
  | .probePass _ => some .pass
  | .probeFail _ => some .probeFailed
  | .watchdogExpired _ _ => some .watchdogExpired
  | .operatorAbort _ => some .aborted
  | _ => none

def Event.Retried (event : Event) : Prop :=
  event.reportsFailure = true ∧ event.rebootsToFallback = false

def trialEnds (log : List (Event × Except Raised TransitionResult)) : List Event :=
  log.filterMap fun entry => match entry.2 with
    | .ok result => if result.allowed ∧ result.fromPhase = .trying then some entry.1 else none
    | .error _ => none

structure EndedBy (fallback : SlotLabel) (machine : Machine) (event : Event)
    (attempt : AttemptRecord) : Prop where
  number : attempt.attemptNumber = machine.attempts.length + 1
  startedAt : attempt.startedAt = machine.time
  result : event.attemptResult = some attempt.result
  fellBackTo : attempt.fellBackTo = if attempt.result = .pass then none else some fallback
  tries : attempt.triesRemainingAfter =
    if event.rebootsToFallback then 0 else (machine.slots.get fallback.other).triesRemaining

theorem Failure.attemptResult {event : Event} {result : AttemptResult} {detail : String}
    (failure : Failure event result detail) :
    event.attemptResult = some result ∧ result ≠ .pass := by
  cases failure <;> exact ⟨rfl, by decide⟩

theorem Edge.attempts {fallback : SlotLabel} {machine after : Machine} {event : Event}
    {fellBackTo : Option SlotLabel} (edge : Edge fallback machine event fellBackTo after) :
    (machine.phase ≠ .trying ∧ after.attempts = machine.attempts) ∨
    (machine.phase = .trying ∧ after.phase ≠ .trying ∧ ∃ attempt,
      after.attempts = machine.attempts ++ [attempt] ∧
        EndedBy fallback machine event attempt) := by
  cases edge with
  | begin _ _ _ phase | verified _ phase | mismatched _ phase | unwritten _ phase | arm phase
  | boot phase => exact .inl ⟨by simp [phase], rfl⟩
  | abort _ phase => exact .inl ⟨(abortable phase).2.1, rfl⟩
  | promote _ phase =>
    exact .inr ⟨phase, by simp, _, rfl, by constructor <;> simp [Event.attemptResult,
      Event.rebootsToFallback]⟩
  | abortTrial _ phase =>
    exact .inr ⟨phase, by simp, _, rfl, by constructor <;> simp [Event.attemptResult,
      Event.rebootsToFallback]⟩
  | retry _ result _ failure patient phase =>
    obtain ⟨same, notPass⟩ := failure.attemptResult
    exact .inr ⟨phase, by simp, _, rfl, by constructor <;> simp [same, notPass, patient]⟩
  | exhaust _ result _ failure phase finished =>
    obtain ⟨same, notPass⟩ := failure.attemptResult
    refine .inr ⟨phase, by simp, _, rfl, ?_⟩
    constructor
    case tries => rcases finished with reboots | spent <;> simp [*]
    all_goals first | rfl | simp [same, notPass]

structure Entry (fallback : SlotLabel) (maxAttempts : Int) (event : Event)
    (attempt : AttemptRecord) : Prop where
  result : event.attemptResult = some attempt.result
  fellBackTo : attempt.fellBackTo = if attempt.result = .pass then none else some fallback
  tries : attempt.triesRemainingAfter =
    if event.rebootsToFallback then 0 else maxAttempts - attempt.attemptNumber

structure Ledger (fallback : SlotLabel) (machine : Machine) (accepted ends : List Event) :
    Prop where
  entries : List.Forall₂ (Entry fallback machine.config.maxAttempts) ends machine.attempts
  numbered : machine.attempts.map (·.attemptNumber) = List.range' 1 machine.attempts.length
  boots : machine.attempts.length + (if machine.phase = .trying then 1 else 0) =
    accepted.countP Event.isBoot
  within : (accepted.countP Event.isBoot : Int) ≤ machine.config.maxAttempts
  early : ∀ event ∈ ends.dropLast, event.Retried
  unarmed : machine.phase = .idle ∨ machine.phase = .writing ∨ machine.phase = .candidateReady →
    machine.attempts = []
  trial : machine.phase = .armed ∨ machine.phase = .trying →
    (∀ event ∈ ends, event.Retried) ∧
      (machine.slots.get fallback.other).triesRemaining + accepted.countP Event.isBoot =
        machine.config.maxAttempts
  promoted : machine.phase = .promoted ↔ ∃ attempt ∈ machine.attempts, attempt.result = .pass

section Ledger

variable {fallback : SlotLabel} {machine after : Machine} {event : Event}
  {fellBackTo : Option SlotLabel} {accepted ends : List Event}

theorem Edge.boots (edge : Edge fallback machine event fellBackTo after) :
    (event.isBoot = true ↔ after.phase = .trying) := by
  cases edge with
  | retry _ _ _ failure | exhaust _ _ _ failure => simp [failure.reports.2]
  | _ => simp [Event.isBoot]

theorem Edge.promotes (edge : Edge fallback machine event fellBackTo after)
    (onTrial : machine.phase = .trying) :
    after.phase = .promoted ↔ event.attemptResult = some .pass := by
  cases edge with
  | retry _ _ _ failure | exhaust _ _ _ failure =>
    obtain ⟨same, notPass⟩ := failure.attemptResult
    simp [same, notPass]
  | promote | abortTrial => simp [Event.attemptResult]
  | _ => simp_all

theorem Edge.retried (edge : Edge fallback machine event fellBackTo after)
    (onTrial : machine.phase = .trying) (trial : after.phase = .armed ∨ after.phase = .trying) :
    event.Retried ∧ (after.slots.get fallback.other).triesRemaining =
      (machine.slots.get fallback.other).triesRemaining := by
  cases edge with
  | retry _ _ _ failure patient => exact ⟨⟨failure.reports.1, patient⟩, by simp⟩
  | _ => simp_all

theorem Ledger.unrecorded (edge : Edge fallback machine event fellBackTo after)
    (ledger : Ledger fallback machine accepted ends) (resting : machine.phase ≠ .trying)
    (same : after.attempts = machine.attempts) :
    Ledger fallback after (accepted ++ [event]) ends := by
  have config := edge.config
  have boots := edge.boots
  have within := ledger.within
  have count : machine.attempts.length = accepted.countP Event.isBoot := by
    simpa [resting] using ledger.boots
  have counted : (accepted ++ [event]).countP Event.isBoot =
      accepted.countP Event.isBoot + if after.phase = .trying then 1 else 0 := by
    simp [List.countP_append, List.countP_cons, boots]
  have notPassed : ¬ ∃ attempt ∈ machine.attempts, attempt.result = .pass := fun passed =>
    edge.from_pending (by simp [ledger.promoted.mpr passed, terminalPhases])
  constructor
  case entries => rw [same, config]; exact ledger.entries
  case numbered => rw [same]; exact ledger.numbered
  case boots => rw [same, counted, count]
  case early => exact ledger.early
  case within =>
    rw [counted, config]
    cases edge with
    | boot phase remaining =>
      have budget := (ledger.trial (.inl phase)).2
      simp
      omega
    | _ => simp_all
  case unarmed => exact edge.unarmed ledger.unarmed
  case trial =>
    intro trial
    rw [counted, config]
    cases edge with
    | arm phase =>
      have none_yet := ledger.unarmed (by simp [phase])
      have noEnds : ends = [] :=
        List.forall₂_nil_right_iff.mp (none_yet ▸ ledger.entries)
      simp [noEnds, ← count, none_yet]
    | boot phase =>
      obtain ⟨retried, budget⟩ := ledger.trial (.inl phase)
      exact ⟨retried, by simp; omega⟩
    | retry _ _ _ _ _ phase => exact absurd phase resting
    | _ => simp at trial
  case promoted =>
    rw [same]
    refine ⟨fun promoted => ?_, fun passed => absurd passed notPassed⟩
    cases edge with
    | promote _ phase => exact absurd phase resting
    | _ => simp at promoted

theorem Ledger.recorded (edge : Edge fallback machine event fellBackTo after)
    (ledger : Ledger fallback machine accepted ends) (onTrial : machine.phase = .trying)
    (ended : after.phase ≠ .trying) {attempt : AttemptRecord}
    (appended : after.attempts = machine.attempts ++ [attempt])
    (record : EndedBy fallback machine event attempt) :
    Ledger fallback after (accepted ++ [event]) (ends ++ [event]) := by
  obtain ⟨retried, budget⟩ := ledger.trial (.inr onTrial)
  have config := edge.config
  have boots : machine.attempts.length + 1 = accepted.countP Event.isBoot := by
    simpa [onTrial] using ledger.boots
  have counted : (accepted ++ [event]).countP Event.isBoot = accepted.countP Event.isBoot := by
    simp [List.countP_append, edge.boots, ended]
  have number := record.number
  have notPassed : ¬ ∃ attempt ∈ machine.attempts, attempt.result = .pass := fun passed => by
    simp [ledger.promoted.mpr passed] at onTrial
  have entry : Entry fallback machine.config.maxAttempts event attempt := {
    result := record.result
    fellBackTo := record.fellBackTo
    tries := by
      rw [record.tries, number]
      split <;> omega }
  constructor
  case entries =>
    rw [appended, config]
    exact List.rel_append ledger.entries (.cons entry .nil)
  case numbered => simp [appended, ledger.numbered, number, List.range'_1_concat, Nat.add_comm]
  case boots => simp [appended, counted, ended, boots]
  case early => simpa using retried
  case within => simpa [counted, config] using ledger.within
  case unarmed => exact edge.unarmed ledger.unarmed
  case trial =>
    intro trial
    obtain ⟨again, tries⟩ := edge.retried onTrial trial
    rw [counted, config, tries]
    refine ⟨?_, budget⟩
    simp only [List.mem_append, List.mem_singleton]
    rintro other (listed | rfl)
    · exact retried other listed
    · exact again
  case promoted =>
    rw [edge.promotes onTrial, record.result, Option.some.injEq]
    simp only [appended, List.mem_append, List.mem_singleton, or_and_right, exists_or, notPassed,
      false_or, exists_eq_left]

theorem Edge.ledger (edge : Edge fallback machine event fellBackTo after)
    (ledger : Ledger fallback machine accepted ends) :
    Ledger fallback after (accepted ++ [event])
      (ends ++ if machine.phase = .trying then [event] else []) := by
  rcases edge.attempts with ⟨resting, same⟩ | ⟨onTrial, ended, attempt, appended, record⟩
  · simpa [resting] using ledger.unrecorded edge resting same
  · simpa [onTrial] using ledger.recorded edge onTrial ended appended record

end Ledger

theorem trialEnds_append (past : List (Event × Except Raised TransitionResult))
    (entry : Event × Except Raised TransitionResult) :
    trialEnds (past ++ [entry]) = trialEnds past ++ trialEnds [entry] :=
  List.filterMap_append

theorem Initial.ledger {fallback : SlotLabel} {machine : Machine}
    (initial : Initial fallback machine) : Ledger fallback machine [] [] := by
  have idle := initial.idle
  have someAttempts := initial.someAttempts
  have unused : machine.attempts = [] := by rw [initial.fresh]
  constructor <;> simp [idle, unused]
  omega

theorem run_ledger {fallback : SlotLabel} {machine : Machine}
    (contracted : Contracted fallback machine) (events : List Event) :
    Sound fallback (device.run machine events) ∧
      Ledger fallback (device.run machine events) (acceptedRun machine events)
        (trialEnds (device.trace machine events)) := by
  refine device.run_history
    (fun past later => Sound fallback later ∧
      Ledger fallback later (acceptedEvents past) (trialEnds past)) ?_
    machine ⟨contracted.sound, contracted.initial.ledger⟩ events
  rintro past before event ⟨sound, ledger⟩
  rw [trialEnds_append]
  rcases sound.answers event with
    ⟨result, step, refused⟩ | ⟨message, _, step⟩ | ⟨fellBackTo, after, reason, _, edge, step⟩
  · simpa [step, acceptedEvents, trialEnds, refused] using ⟨sound, ledger⟩
  · simpa [step, acceptedEvents, trialEnds] using ⟨sound, ledger⟩
  · rw [step]
    refine ⟨edge.sound sound, ?_⟩
    have next := edge.ledger ledger
    by_cases onTrial : before.phase = .trying <;>
      simpa [acceptedEvents, trialEnds, accepted, onTrial] using next

structure ExactLedger (maxAttempts : Int) (machine : Machine) (accepted ends : List Event) :
    Prop where
  numbered : machine.attempts.map (·.attemptNumber) = List.range' 1 machine.attempts.length
  atMost : (machine.attempts.length : Int) ≤ maxAttempts
  boots : machine.attempts.length + (if machine.phase = .trying then 1 else 0) =
    accepted.countP Event.isBoot
  early : ∀ attempt ∈ machine.attempts.dropLast,
    attempt.result = .probeFailed ∨ attempt.result = .watchdogExpired
  promoted : machine.phase = .promoted ↔ ∃ attempt ∈ machine.attempts, attempt.result = .pass
  passedLast : ∀ attempt ∈ machine.attempts.dropLast, attempt.result ≠ .pass
  fellBackTo : ∀ attempt ∈ machine.attempts,
    attempt.fellBackTo = if attempt.result = .pass then none else machine.fromSlot
  tries : List.Forall₂ (fun event attempt => attempt.triesRemainingAfter =
    if event.rebootsToFallback then 0 else maxAttempts - attempt.attemptNumber)
      ends machine.attempts
  fallbackLast : ∀ event ∈ ends.dropLast, event.rebootsToFallback = false

theorem forall₂_partner {α β : Type} {related : α → β → Prop} {left : List α} {right : List β}
    (each : List.Forall₂ related left right) (entry : β) (listed : entry ∈ right) :
    ∃ partner ∈ left, related partner entry := by
  induction each with
  | nil => simp at listed
  | @cons first _ _ _ pair _ ih =>
    rcases List.mem_cons.mp listed with rfl | later
    · exact ⟨first, by simp, pair⟩
    · obtain ⟨partner, found, pair⟩ := ih later
      exact ⟨partner, by simp [found], pair⟩

theorem Event.Retried.results {event : Event} (retried : event.Retried) {result : AttemptResult}
    (recorded : event.attemptResult = some result) :
    result = .probeFailed ∨ result = .watchdogExpired := by
  have reports := retried.1
  cases event <;> simp_all [Event.reportsFailure, Event.attemptResult]

theorem Ledger.early_results {fallback : SlotLabel} {machine : Machine}
    {accepted ends : List Event} (ledger : Ledger fallback machine accepted ends) :
    ∀ attempt ∈ machine.attempts.dropLast,
      attempt.result = .probeFailed ∨ attempt.result = .watchdogExpired := by
  intro attempt listed
  have shorter := List.forall₂_take (machine.attempts.length - 1) ledger.entries
  rw [← List.dropLast_eq_take, ← ledger.entries.length_eq, ← List.dropLast_eq_take] at shorter
  obtain ⟨event, ended, entry⟩ := forall₂_partner shorter attempt listed
  exact (ledger.early event ended).results entry.result

theorem Ledger.fell_back {fallback : SlotLabel} {machine : Machine} {accepted ends : List Event}
    (ledger : Ledger fallback machine accepted ends) (standing : Standing fallback machine)
    (attempt : AttemptRecord) (listed : attempt ∈ machine.attempts) :
    attempt.fellBackTo = if attempt.result = .pass then none else machine.fromSlot := by
  have opened : machine.phase ≠ .idle := by
    intro idle
    simp [ledger.unarmed (.inl idle)] at listed
  obtain ⟨_, _, entry⟩ := forall₂_partner ledger.entries attempt listed
  rw [entry.fellBackTo, (standing.opened opened).1]

theorem attempt_ledger_exact (left right : Json) (arguments : MachineArguments)
    (machine : Machine) (built : BuiltFrom left right arguments machine) (events : List Event) :
    ExactLedger arguments.maxAttempts (device.run machine events) (acceptedRun machine events)
      (trialEnds (device.trace machine events)) := by
  obtain ⟨fallback, contracted⟩ := built.contracted
  obtain ⟨sound, ledger⟩ := run_ledger contracted events
  have config := run_config contracted.sound.standing events
  rw [← built.arguments, ← config]
  generalize device.run machine events = later at sound ledger ⊢
  have early := ledger.early_results
  have boots := ledger.boots
  have within := ledger.within
  constructor
  case numbered => exact ledger.numbered
  case atMost => omega
  case boots => exact boots
  case early => exact early
  case promoted => exact ledger.promoted
  case passedLast =>
    intro attempt listed
    rcases early attempt listed with failed | expired <;> simp [*]
  case fellBackTo => exact ledger.fell_back sound.standing
  case tries => exact ledger.entries.imp fun _ _ entry => entry.tries
  case fallbackLast => exact fun event listed => (ledger.early event listed).2

def ledgerEvents : List Event :=
  -- One probe fails; the second boot hangs and gives up the rest of the budget.
  [.begin badDigest none none, .writeComplete badDigest, .arm, .bootAttempt, .probeFail "down",
    .bootAttempt, .watchdogExpired "hung" "reboot-to-fallback", .bootAttempt]

theorem attempt_ledger_exact_example :
    ExactLedger 2 (device.run exampleMachine ledgerEvents) (acceptedRun exampleMachine ledgerEvents)
      (trialEnds (device.trace exampleMachine ledgerEvents)) :=
  attempt_ledger_exact exampleActive exampleCandidate exampleArguments exampleMachine
    exampleMachine_built ledgerEvents

end SourceosBoot.AbUpdate
