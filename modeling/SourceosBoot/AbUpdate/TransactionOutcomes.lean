import SourceosBoot.AbUpdate.ReferenceMachine
import SourceosBoot.AbUpdate.ReplayFidelity

set_option autoImplicit false

namespace SourceosBoot.AbUpdate

open Python Transition

inductive Report : Event → Prop
  | pass (detail : Option String) : Report (.probePass detail)
  | failure (event : Event) (result : AttemptResult) (detail : String)
      (failed : Failure event result detail) : Report event

def Fails (event : Event) : Prop := ∃ result detail, Failure event result detail

def Patient (event : Event) : Prop := Fails event ∧ event.rebootsToFallback = false

def GetsThrough (budget : Nat) (reports : List Event) : Prop :=
  ∃ failures detail rest, reports = failures ++ .probePass detail :: rest ∧
    failures.length < budget ∧ ∀ failure ∈ failures, Patient failure

def Exhausts (budget : Nat) (reports : List Event) : Prop :=
  ∃ failures last rest, reports = failures ++ last :: rest ∧ failures.length < budget ∧
    (∀ failure ∈ failures, Patient failure) ∧ Fails last ∧
    (last.rebootsToFallback = true ∨ failures.length + 1 = budget)

def LeavesOpen (budget : Nat) (reports : List Event) : Prop :=
  reports.length < budget ∧ ∀ report ∈ reports, Patient report

section Reference

variable {budget : Nat} {transaction : Transaction}

theorem reference_stays (settled : ∀ event, transaction.next budget event = none)
    (events : List Event) : (reference budget).run transaction events = transaction := by
  induction events with
  | nil => rfl
  | cons event rest ih => simpa [reference, settled event] using ih

theorem settled_next (settled : transaction.phase ∈ terminalPhases) (event : Event) :
    transaction.next budget event = none := by
  cases transaction <;> simp [Transaction.phase, terminalPhases] at settled <;>
    cases event <;> rfl

theorem reference_settled (settled : transaction.phase ∈ terminalPhases) (events : List Event) :
    (reference budget).run transaction events = transaction :=
  reference_stays (settled_next settled) events

theorem reference_moves {event : Event} {moved : Transaction}
    (moves : transaction.next budget event = some moved) (rest : List Event) :
    (reference budget).run transaction (event :: rest) = (reference budget).run moved rest := by
  simp [reference, moves]

theorem reference_attempt (left : Nat) {report : Event} {moved : Transaction}
    (moves : (Transaction.trying left).next budget report = some moved) (rest : List Event) :
    (reference budget).run (.armed (left + 1)) (attempts (report :: rest)) =
      (reference budget).run moved (attempts rest) := by
  have boots : (Transaction.armed (left + 1)).next budget .bootAttempt = some (.trying left) := rfl
  rw [attempts_cons, reference_moves boots, reference_moves moves]

end Reference

theorem Patient.next {event : Event} (patient : Patient event) (budget : Nat) {left : Nat}
    (more : 0 < left) : (Transaction.trying left).next budget event = some (.armed left) := by
  obtain ⟨⟨result, detail, failed⟩, waits⟩ := patient
  simp [failed.next, waits, Transaction.failed_of_pos more]

theorem reference_patient (budget : Nat) {left : Nat} {failures : List Event}
    (few : failures.length < left) (patient : ∀ failure ∈ failures, Patient failure)
    (reports : List Event) :
    (reference budget).run (.armed left) (attempts (failures ++ reports)) =
      (reference budget).run (.armed (left - failures.length)) (attempts reports) := by
  induction failures generalizing left with
  | nil => rfl
  | cons failure rest ih =>
    rw [List.length_cons] at few
    obtain ⟨left, rfl⟩ : ∃ fewer, left = fewer + 1 := ⟨left - 1, by omega⟩
    have waits : (Transaction.trying left).next budget failure = some (.armed left) :=
      (patient failure (by simp)).next budget (by omega)
    rw [List.cons_append, reference_attempt left waits,
      ih (by omega) fun later listed => patient later (List.mem_cons_of_mem _ listed),
      List.length_cons, Nat.add_sub_add_right]

section Verdicts

variable {left : Nat} {reports : List Event} (budget : Nat)

theorem GetsThrough.promoted (passes : GetsThrough left reports) :
    (reference budget).run (.armed left) (attempts reports) = .promoted := by
  obtain ⟨failures, detail, rest, rfl, few, patient⟩ := passes
  obtain ⟨spare, more⟩ : ∃ spare, left - failures.length = spare + 1 :=
    ⟨left - failures.length - 1, by omega⟩
  have moves : (Transaction.trying spare).next budget (.probePass detail) = some .promoted := rfl
  rw [reference_patient budget few patient, more, reference_attempt spare moves,
    reference_settled (by decide)]

theorem Exhausts.refused (exhausts : Exhausts left reports) :
    (reference budget).run (.armed left) (attempts reports) = .refused := by
  obtain ⟨failures, last, rest, rfl, few, patient, ⟨result, detail, failed⟩, spent⟩ := exhausts
  obtain ⟨spare, more⟩ : ∃ spare, left - failures.length = spare + 1 :=
    ⟨left - failures.length - 1, by omega⟩
  have moves : (Transaction.trying spare).next budget last = some .refused := by
    rw [failed.next]
    rcases spent with atOnce | finished
    · rw [if_pos atOnce]
    · obtain rfl : spare = 0 := by omega
      simp [Transaction.failed]
  rw [reference_patient budget few patient, more, reference_attempt spare moves,
    reference_settled (by decide)]

theorem LeavesOpen.armed (waits : LeavesOpen left reports) :
    (reference budget).run (.armed left) (attempts reports) = .armed (left - reports.length) := by
  have ran := reference_patient budget waits.1 waits.2 []
  simpa using ran

end Verdicts

theorem reports_cases {left : Nat} (remaining : 0 < left) (reports : List Event)
    (each : ∀ report ∈ reports, Report report) :
    GetsThrough left reports ∨ Exhausts left reports ∨ LeavesOpen left reports := by
  -- The reports are read one by one, each at the cost of an attempt.
  induction reports generalizing left with
  | nil => exact .inr (.inr ⟨remaining, by simp⟩)
  | cons report rest ih =>
    cases each report (by simp) with
    | pass detail => exact .inl ⟨[], detail, rest, rfl, remaining, by simp⟩
    | failure _ result detail failed =>
      by_cases last : report.rebootsToFallback = true ∨ left = 1
      · refine .inr (.inl ⟨[], report, rest, rfl, remaining, by simp, ⟨result, detail, failed⟩, ?_⟩)
        exact last.imp_right fun finished => by simp [finished]
      · rw [not_or, Bool.not_eq_true] at last
        have patient : Patient report := ⟨⟨result, detail, failed⟩, last.1⟩
        rcases @ih (left - 1) (by omega) fun later listed => each later (List.mem_cons_of_mem _ listed)
          with ⟨failures, detail, others, split, few, patiently⟩ |
            ⟨failures, final, others, split, few, patiently, fails, spent⟩ | ⟨few, patiently⟩
        · refine .inl ⟨report :: failures, detail, others, by simp [split], ?_, ?_⟩
          · rw [List.length_cons]
            omega
          · exact List.forall_mem_cons.mpr ⟨patient, patiently⟩
        · refine .inr (.inl ⟨report :: failures, final, others, by simp [split], ?_, ?_, fails, ?_⟩)
          · rw [List.length_cons]
            omega
          · exact List.forall_mem_cons.mpr ⟨patient, patiently⟩
          · refine spent.imp_right fun finished => ?_
            rw [List.length_cons]
            omega
        · refine .inr (.inr ⟨?_, List.forall_mem_cons.mpr ⟨patient, patiently⟩⟩)
          rw [List.length_cons]
          omega

def armingEvents (digest : String) (payloadRef version : Option String) : List Event :=
  [.begin digest payloadRef version, .writeComplete digest, .arm]

theorem reference_arms (budget : Nat) (digest : String) (payloadRef version : Option String)
    (events : List Event) :
    (reference budget).run .unopened (armingEvents digest payloadRef version ++ events) =
      (reference budget).run (.armed budget) events := by
  simp [armingEvents, reference, Transaction.next]

theorem phase_of_transaction {fallback : SlotLabel} {machine : Machine} {transaction : Transaction}
    (current : machine.transaction fallback = transaction) : machine.phase = transaction.phase := by
  rw [← current, transaction_phase]

structure EndsBy (budget : Nat) (digest : String) (reports : List Event)
    (machine after : Machine) : Prop where
  promoted : after.phase = .promoted ↔ GetsThrough budget reports
  refused : after.phase = .refused ↔ Exhausts budget reports
  armed : after.phase = .armed ↔ LeavesOpen budget reports
  attempts : LeavesOpen budget reports → ∃ candidate, after.candidate = .ok candidate ∧
    candidate.triesRemaining = (budget - reports.length : Nat)
  active : ∃ before later, machine.active = .ok before ∧ after.active = .ok later ∧
    (GetsThrough budget reports → later.payloadDigest = some digest) ∧
    (¬ GetsThrough budget reports → later.payloadDigest = before.payloadDigest)

theorem reports_decide (left right : Json) (arguments : MachineArguments) (machine : Machine)
    (built : BuiltFrom left right arguments machine) (digest : String)
    (payloadRef version : Option String) (reports : List Event)
    (each : ∀ report ∈ reports, Report report) :
    EndsBy arguments.maxAttempts.toNat digest reports machine (device.run machine
      (armingEvents digest payloadRef version ++ attempts reports)) := by
  obtain ⟨fallback, contracted⟩ := built.contracted
  have standing := contracted.sound.standing
  have kept := run_kept standing (armingEvents digest payloadRef version ++ attempts reports)
  have ⟨_, sound, _, current⟩ :=
    contracted.performs.run (armingEvents digest payloadRef version ++ attempts reports)
  have written : (device.run machine
      (armingEvents digest payloadRef version ++ attempts reports)).candidateDigest = digest := by
    have edge := @Edge.begin fallback machine digest payloadRef version contracted.initial.idle
    rw [armingEvents, List.cons_append, System.run_cons, (edge_takes standing edge).left]
    exact run_candidateDigest (edge.standing standing) edge.leaves_idle _
  have remaining : 0 < arguments.maxAttempts.toNat := by
    have some := contracted.initial.someAttempts
    rw [built.arguments] at some
    omega
  rw [built.arguments, reference_arms] at current
  generalize device.run machine
    (armingEvents digest payloadRef version ++ attempts reports) = after at *
  generalize arguments.maxAttempts.toNat = budget at *
  have phases := phase_of_transaction current
  have promoted (passes : GetsThrough budget reports) : after.phase = .promoted := by
    rw [phases, passes.promoted]
    rfl
  have refused (exhausts : Exhausts budget reports) : after.phase = .refused := by
    rw [phases, exhausts.refused]
    rfl
  have armed (waits : LeavesOpen budget reports) : after.phase = .armed := by
    rw [phases, waits.armed]
    rfl
  have kinds := reports_cases remaining reports each
  have promotedIff : after.phase = .promoted ↔ GetsThrough budget reports := by
    refine ⟨fun phase => ?_, promoted⟩
    rcases kinds with passes | exhausts | waits
    · exact passes
    · simp [refused exhausts] at phase
    · simp [armed waits] at phase
  constructor
  case promoted => exact promotedIff
  case refused =>
    refine ⟨fun phase => ?_, refused⟩
    rcases kinds with passes | exhausts | waits
    · simp [promoted passes] at phase
    · exact exhausts
    · simp [armed waits] at phase
  case armed =>
    refine ⟨fun phase => ?_, armed⟩
    rcases kinds with passes | exhausts | waits
    · simp [promoted passes] at phase
    · simp [refused exhausts] at phase
    · exact waits
  case attempts =>
    intro waits
    have phase := armed waits
    have roles := sound.standing.roles (by simp [phase])
    have tries := sound.stage.armed phase
    simp only [waits.armed, Machine.transaction, phase, Transaction.armed.injEq] at current
    exact ⟨_, roles.candidate_ok, by omega⟩
  case active =>
    by_cases passes : GetsThrough budget reports
    · have phase := promoted passes
      refine ⟨_, _, contracted.initial.roles.active_ok,
        (sound.standing.swapped phase).active_ok, fun _ => ?_, fun fails => absurd passes fails⟩
      rw [sound.stage.digest (by simp [phase]), written]
    · have pending : after.phase ≠ .promoted := fun phase => passes (promotedIff.mp phase)
      exact ⟨_, _, contracted.initial.roles.active_ok, (sound.standing.roles pending).active_ok,
        fun passed => absurd passed passes, fun _ => kept.payloadDigest⟩

theorem reports_decide_example :
    EndsBy 2 badDigest [.probeFail "no network", .probePass none, .probePass none] exampleMachine
      (device.run exampleMachine (armingEvents badDigest none none ++
        attempts [.probeFail "no network", .probePass none, .probePass none])) :=
  reports_decide exampleActive exampleCandidate exampleArguments exampleMachine
    exampleMachine_built badDigest none none
    [.probeFail "no network", .probePass none, .probePass none] (by
      simp only [List.forall_mem_cons, List.not_mem_nil, false_implies, implies_true, and_true]
      exact ⟨.failure _ _ _ (.probe _), .pass none, .pass none⟩)

def Transaction.toTrial (digest : String) : Transaction → List Event
  | unopened => armingEvents digest none none ++ [.bootAttempt]
  | writing expected => [.writeComplete expected, .arm, .bootAttempt]
  | ready => [.arm, .bootAttempt]
  | armed _ => [.bootAttempt]
  | _ => []

def lastReport : Phase → Event
  | .promoted => .probePass none
  | .refused => .watchdogExpired "watchdog expired" "reboot-to-fallback"
  | _ => .operatorAbort "aborted by operator"

theorem reference_ends (budget : Nat) (budgeted : 0 < budget) (transaction : Transaction)
    (pending : transaction.phase ∉ terminalPhases) (left : transaction ≠ .armed 0)
    (ending : Phase) (terminal : ending ∈ terminalPhases) (digest : String) :
    ((reference budget).run transaction
      (transaction.toTrial digest ++ [lastReport ending])).phase = ending := by
  obtain ⟨budget, rfl⟩ : ∃ fewer, budget = fewer + 1 := ⟨budget - 1, by omega⟩
  have ends (tries : Nat) :
      ((reference (budget + 1)).run (.trying tries) [lastReport ending]).phase = ending := by
    cases ending <;> simp [terminalPhases] at terminal <;> rfl
  cases transaction with
  | unopened =>
    rw [Transaction.toTrial, List.append_assoc, reference_arms]
    exact ends budget
  | ready => exact ends budget
  | writing expected =>
    have ready : (Transaction.writing expected).next (budget + 1) (.writeComplete expected) =
        some .ready := by simp [Transaction.next]
    rw [Transaction.toTrial, List.cons_append, reference_moves ready]
    exact ends budget
  | armed tries =>
    cases tries with
    | zero => exact absurd rfl left
    | succ tries => exact ends tries
  | trying tries => exact ends tries
  | promoted | rolledBack | refused => simp [Transaction.phase, terminalPhases] at pending

theorem Sound.armed_left {fallback : SlotLabel} {machine : Machine}
    (sound : Sound fallback machine) : machine.transaction fallback ≠ .armed 0 := by
  intro current
  have phase := phase_of_transaction current
  have remaining := sound.stage.armed phase
  have none_left : (machine.slots.get fallback.other).triesRemaining.toNat = 0 := by
    simpa [Machine.transaction, phase, Transaction.phase] using current
  omega

/-- A transaction is never stuck: while it is pending a few events end it in any way there is. -/
theorem every_end_in_reach (left right : Json) (arguments : MachineArguments) (machine : Machine)
    (built : BuiltFrom left right arguments machine) (events : List Event)
    (pending : (device.run machine events).phase ∉ terminalPhases)
    (ending : Phase) (terminal : ending ∈ terminalPhases) :
    ∃ more, more.length ≤ 5 ∧ (device.run machine (events ++ more)).phase = ending := by
  obtain ⟨fallback, contracted⟩ := built.contracted
  have ⟨_, performs⟩ := contracted.performs.run events
  have budgeted : 0 < machine.config.maxAttempts.toNat := by
    have some := contracted.initial.someAttempts
    omega
  have standing := phase_of_transaction performs.current
  rw [standing] at pending
  generalize current : (reference machine.config.maxAttempts.toNat).run .unopened events =
    transaction at performs pending
  have ends := reference_ends _ budgeted transaction pending
    (performs.current ▸ performs.sound.armed_left) ending terminal ""
  have ⟨_, later⟩ := performs.run (transaction.toTrial "" ++ [lastReport ending])
  refine ⟨transaction.toTrial "" ++ [lastReport ending], ?_, ?_⟩
  · cases transaction <;> simp [Transaction.toTrial, armingEvents]
  · rw [device.run_append, phase_of_transaction later.current, ends]

theorem every_end_in_reach_example :
    ∃ more, more.length ≤ 5 ∧
      (device.run exampleMachine ([.begin badDigest none none] ++ more)).phase = .refused :=
  every_end_in_reach exampleActive exampleCandidate exampleArguments exampleMachine
    exampleMachine_built [.begin badDigest none none] (by decide +kernel) .refused (by decide)

end SourceosBoot.AbUpdate
